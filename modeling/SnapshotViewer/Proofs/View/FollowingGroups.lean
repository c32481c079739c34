import SnapshotViewer.Proofs.View.Coherence

/-!
# Views follow their groups

The visible snapshots of an open view are those of its group, or a change of the group waits to be
followed (`Tracks`), and the view is connected to the group (`Attached`). Every operation of a view
keeps both, and following the group restores the first (`View.mutate_follows`). When a group
changes, its views do not track it until the announcement reaches them. It does, because they are
connected, so that runs keep both if no change of the view fails and no snapshot is edited. Main
statement: `World.Reaches.follows`.
-/

namespace SnapshotViewer

namespace World

/-- The visible snapshots of an open view are those of its group, if that is not empty. Otherwise
what `waits` says holds of the view. -/
def Tracks (v : ViewRef) (waits : View → Prop) (w : World) : Prop :=
  ∀ view group, w.views[v]? = some view → view.closed = false →
    w.groups[view.group]? = some group → group.members ≠ [] →
    view.graphs = Sequence.visible w.isDuplicate view.hides group.members ∨ waits view

/-- A change of the group waits to be followed. -/
def FollowWaits (view : View) : Prop := view.busy = true ∧ Mutation.groupChanged ∈ view.pending

/-- Nothing is left to be followed. -/
def NothingWaits (_ : View) : Prop := False

/-- An open view is connected to its group. -/
def Attached (v : ViewRef) (w : World) : Prop :=
  ∀ view, w.views[v]? = some view → view.closed = false →
    ∃ c ∈ w.connections, c.signal = .group view.group ∧ c.slot = .follow v

/-- A view is connected to its group and tracks it. -/
structure Follows (v : ViewRef) (waits : View → Prop) (w : World) : Prop where
  attached : Attached v w
  tracks : Tracks v waits w

/-- What holds of two worlds unless a change of the view has failed or a snapshot was edited between
them. -/
def Unbroken (v : ViewRef) (w : World) (P : World → Prop) (w' : World) : Prop :=
  ∃ es, w'.trace = w.trace ++ es ∧ (failures v es = [] → Unedited es → P w')

/-- What held before holds still. -/
def Keeps (v : ViewRef) (P : World → Prop) (w w' : World) : Prop :=
  Unbroken v w (fun w' => P w → P w') w'

/-- A property of a view that does not depend on more than the view, the groups, the duplicates and
the connections, and that the view keeps whatever a change of it writes. -/
structure Stable (v : ViewRef) (P : World → Prop) : Prop where
  same : ∀ {w w' : World}, P w → w'.views[v]? = w.views[v]? → w'.groups = w.groups →
    w'.isDuplicate = w.isDuplicate → w'.connections = w.connections → P w'
  write : ∀ {w : World} {f : View → View}, P w →
    (∀ view, w.views[v]? = some view → View.Write w view (f view)) → P (w.modifyView v f)

variable {v : ViewRef} {waits : View → Prop} {w₀ w w' w'' : World} {P Q : World → Prop}

/-! ## Rules -/

theorem Unbroken.trans (h : Unbroken v w P w') (h' : Unbroken v w' Q w'') :
    Unbroken v w (fun w'' => P w' ∧ Q w'') w'' := by
  obtain ⟨es, htrace, h⟩ := h
  obtain ⟨es', htrace', h'⟩ := h'
  refine ⟨es ++ es', by rw [htrace', htrace, List.append_assoc], fun hflawless hes => ?_⟩
  rw [failures_append, List.append_eq_nil_iff] at hflawless
  exact ⟨h hflawless.1 hes.left, h' hflawless.2 hes.right⟩

theorem Unbroken.mono (h : Unbroken v w P w') (hQ : P w' → Q w') : Unbroken v w Q w' :=
  h.imp fun _ hes => ⟨hes.1, fun hflawless hun => hQ (hes.2 hflawless hun)⟩

theorem Unbroken.of_holds {es : List Event} (htrace : w'.trace = w.trace ++ es) (h : P w') :
    Unbroken v w P w' := ⟨es, htrace, fun _ _ => h⟩

/-- What is not noted leaves the trace as it is. -/
theorem Unbroken.same (h : Unbroken v w₀ P w) (htrace : w'.trace = w.trace) (hQ : P w → Q w') :
    Unbroken v w₀ Q w' := by
  obtain ⟨es, hes, hP⟩ := h
  exact ⟨es, htrace.trans hes, fun hflawless hun => hQ (hP hflawless hun)⟩

theorem Unbroken.start (h : Unbroken v w P w') (htrace : w.trace = w₀.trace) :
    Unbroken v w₀ P w' :=
  h.imp fun _ hes => ⟨by rw [← htrace, hes.1], hes.2⟩

theorem Unbroken.after (h : Unbroken v w P w') (h' : Unbroken v w' Q w'') : Unbroken v w Q w'' :=
  (h.trans h').mono fun h => h.2

/-- When a failure is noted, nothing is left to show. -/
theorem unbroken_failed (w : World) (m : Mutation) (e : Failure) (partway : Bool) :
    Unbroken v w P (w.record (.failed v m e partway)) :=
  ⟨[.failed v m e partway], rfl, fun hflawless => by simp [failures] at hflawless⟩

theorem chains_keeps : Act.Chains (Keeps v P) :=
  ⟨fun _ => .of_holds (List.append_nil _).symm id,
    fun h h' => (Unbroken.trans h h').mono fun hboth hw => hboth.2 (hboth.1 hw)⟩

/-- A view that is not there, or closed, follows its group in every way. -/
theorem follows_of_closed (h : ∀ view, w.views[v]? = some view → view.closed = true) :
    Follows v waits w where
  attached view hview hopen := absurd hopen (by simp [h view hview])
  tracks view _ hview hopen := absurd hopen (by simp [h view hview])

/-- A view that is written to tracks its group if what it shows is still right. -/
theorem Tracks.modifyView {f : View → View}
    (h : ∀ view group, w.views[v]? = some view → (f view).closed = false →
      w.groups[(f view).group]? = some group → group.members ≠ [] →
      (f view).graphs = Sequence.visible w.isDuplicate (f view).hides group.members ∨
        waits (f view)) : Tracks v waits (w.modifyView v f) := by
  intro view group hview hopen hgroup hmembers
  rw [views_modifyView, if_pos rfl] at hview
  obtain ⟨before, hbefore, rfl⟩ := Option.map_eq_some_iff.1 hview
  exact h before group hbefore hopen hgroup hmembers

/-- A view that is written to stays connected, unless it gets another group. -/
theorem Attached.modifyView (h : Attached v w) {f : View → View}
    (hgroup : ∀ view, w.views[v]? = some view → (f view).group = view.group)
    (hclosed : ∀ view, w.views[v]? = some view → (f view).closed = view.closed) :
    Attached v (w.modifyView v f) := by
  intro view hview hopen
  rw [views_modifyView, if_pos rfl] at hview
  obtain ⟨before, hbefore, rfl⟩ := Option.map_eq_some_iff.1 hview
  rw [hclosed before hbefore] at hopen
  rw [hgroup before hbefore]
  exact h before hbefore hopen

/-- A step that changes neither the view, the groups nor the connections. -/
theorem Stable.keeps_of_same (hP : Stable v P) {es : List Event} (htrace : w'.trace = w.trace ++ es)
    (hkept : SnapshotsKept es w w') (hviews : w'.views[v]? = w.views[v]?)
    (hgroups : w'.groups = w.groups) (hconnections : w'.connections = w.connections) :
    Keeps v P w w' :=
  ⟨es, htrace, fun _ hes hw => hP.same hw hviews hgroups (hkept.isDuplicate hes) hconnections⟩

theorem Stable.keeps_record (hP : Stable v P) (w : World) (e : Event) :
    Keeps v P w (w.record e) :=
  hP.keeps_of_same rfl (.of_eq rfl) rfl rfl rfl

theorem Stable.keeps_recordAll (hP : Stable v P) (w : World) (es : List Event) :
    Keeps v P w (w.recordAll es) :=
  hP.keeps_of_same rfl (.of_eq rfl) rfl rfl rfl

theorem Stable.renders (hP : Stable v P) : Renders (Keeps v P) where
  chains := chains_keeps
  note _ e _ := hP.keeps_record _ e
  assign w r _ blocks log _ _ := by
    have htrace : (Builder.assignBlocks w r blocks log).trace = w.trace ++ log.map .logged := rfl
    exact hP.keeps_of_same htrace (.assignBlocks w r blocks log) rfl rfl rfl
  archive _ _ _ _ _ _ _ :=
    hP.keeps_of_same (List.append_nil _).symm (.archive rfl rfl) rfl rfl rfl
  count _ _ := hP.keeps_of_same (List.append_nil _).symm (.of_eq rfl) rfl rfl rfl

end World

namespace View

open World

variable {a : Announce} {v : ViewRef} {waits : View → Prop} {w₀ w : World}

/-! ## Operations of a view -/

/-- Computing the visible snapshots anew lets the view track its group, and nothing else that is
written stops it. -/
theorem Write.tracks {view view' : View} (h : Write w view view') {group : Group}
    (hgroup : w.groups[view.group]? = some group)
    (hview : view.graphs = Sequence.visible w.isDuplicate view.hides group.members) :
    view'.graphs = Sequence.visible w.isDuplicate view'.hides group.members := by
  cases h with
  | refilter hide hgroup' =>
    cases hgroup.symm.trans hgroup'
    rfl
  | move window _ => exact hview
  | select s _ => exact hview
  | draw d => exact hview
  | selectNodes ids => exact hview
  | hideNodes ids => exact hview
  | toggle ts => exact hview

theorem stable_tracks (hwaits : ∀ view view', SameDispatch view view' → waits view → waits view') :
    Stable v (Tracks v waits) where
  same hw hviews hgroups hduplicate _ view group hview hopen hgroup hmembers := by
    rw [hduplicate]
    exact hw view group (hviews ▸ hview) hopen (hgroups ▸ hgroup) hmembers
  write hw hf := Tracks.modifyView fun view group hview hopen hgroup hmembers => by
    have hsame := (hf view hview).sameDispatch
    rw [hsame.closed] at hopen
    rw [hsame.group] at hgroup
    exact (hw view group hview hopen hgroup hmembers).imp
      (fun h => (hf view hview).tracks hgroup h) (hwaits view _ hsame)

theorem stable_attached : Stable v (Attached v) where
  same hw hviews _ _ hconnections view hview hopen := by
    rw [hconnections]
    exact hw view (hviews ▸ hview) hopen
  write hw hf := hw.modifyView (fun view hview => (hf view hview).sameDispatch.group)
    fun view hview => (hf view hview).sameDispatch.closed

theorem stable_nothingWaits : Stable v (Tracks v NothingWaits) := stable_tracks fun _ _ _ h => h

theorem stable_followWaits : Stable v (Tracks v FollowWaits) := stable_tracks fun _ _ h hw => by
  rw [FollowWaits, h.busy, h.pending]
  exact hw

theorem stable_follows_of (h : Stable v (Tracks v waits)) : Stable v (Follows v waits) where
  same hw hviews hgroups hduplicate hconnections :=
    ⟨stable_attached.same hw.attached hviews hgroups hduplicate hconnections,
      h.same hw.tracks hviews hgroups hduplicate hconnections⟩
  write hw hf := ⟨stable_attached.write hw.attached hf, h.write hw.tracks hf⟩

theorem stable_follows : Stable v (Follows v FollowWaits) := stable_follows_of stable_followWaits

/-- The steps of a change keep what is stable, if what is announced does. -/
theorem Steps.keeps {P : World → Prop} (hP : Stable v P)
    (ha : ∀ n w w', a v n w = some w' → Keeps v P w w') {w w' : World} (h : Steps a v w w') :
    Keeps v P w w' :=
  Steps.within hP.renders (fun _ _ hf => .of_holds (List.append_nil _).symm
    fun hw => hP.write hw hf) ha h

/-- A view tracks its group when the visible snapshots were computed anew. Whether it is connected
to it does not matter. -/
theorem refilterWith_tracks (waits : View → Prop) (hide : Value) (w : World) :
    (refilterWith v hide).Ends w
      (fun _ w' => w'.trace = w.trace ∧ Tracks v waits w' ∧ (Attached v w → Attached v w'))
      fun _ _ => True := by
  refine ends_refilterWith trivial fun view group hview hgroup => ?_
  refine ⟨rfl, Tracks.modifyView fun view' group' hview' _ hgroup' _ => .inl ?_,
    fun hw => hw.modifyView (fun _ _ => rfl) fun _ _ => rfl⟩
  cases hview.symm.trans hview'
  cases hgroup.symm.trans hgroup'
  rfl

theorem refilter_tracks (waits : View → Prop) (w : World) :
    (refilter v).Ends w
      (fun _ w' => w'.trace = w.trace ∧ Tracks v waits w' ∧ (Attached v w → Attached v w'))
      fun _ _ => True := by
  unfold refilter
  rw [Act.ends_bind]
  exact Act.ends_view (fun view _ => refilterWith_tracks waits _ w) fun _ => trivial

theorem refilterShowing_follows (waits : View → Prop) (h : Unbroken v w₀ (Attached v) w) :
    (refilterShowing v).Ends w (fun _ w' => Unbroken v w₀ (Follows v waits) w')
      fun _ _ => True := by
  unfold refilterShowing
  refine (refilter_tracks waits w).bind fun _ w₁ h₁ => ?_
  obtain ⟨htrace, htracks, hattached⟩ := h₁
  rw [Act.ends_bind]
  refine Act.ends_view (fun view _ => ?_) fun _ => trivial
  split
  · rw [Act.ends_bind]
    refine Act.ends_group (fun group _ => ?_) fun _ => trivial
    rw [Act.ends_bind]
    refine Act.ends_record.2 ((refilterWith_tracks waits _ _).mono (fun _ w₂ h₂ => ?_)
      fun _ _ h => h)
    obtain ⟨htrace', htracks', hattached'⟩ := h₂
    exact ((h.same htrace hattached).trans (stable_attached.keeps_record w₁ _)).same htrace'
      fun h => ⟨hattached' (h.2 h.1), htracks'⟩
  · exact Act.ends_pure.2 (h.same htrace fun hw => ⟨hattached hw, htracks⟩)

section

variable (ha : ∀ n w w', a v n w = some w' → Keeps v (Follows v FollowWaits) w w')

include ha

/-- A change of the view keeps it following its group, and lets it track the group again if it is
the change that follows it. -/
theorem perform_follows {m : Mutation} (h : Unbroken v w₀
    (fun w => Attached v w ∧ (m = .groupChanged ∨ Tracks v FollowWaits w)) w) :
    (perform a v m).Ends w (fun _ w' => Unbroken v w₀ (Follows v FollowWaits) w')
      fun _ _ => True := by
  by_cases hm : m = .groupChanged
  · subst hm
    unfold perform groupChanged
    rw [Act.ends_bind]
    refine Act.ends_view (fun before _ => ?_) fun _ => trivial
    refine (refilterShowing_follows FollowWaits (h.mono fun h => h.1)).bind fun _ w₁ h₁ => ?_
    refine (steps_followOn _ _ w₁).mono (fun _ w₂ hsteps => ?_) fun _ _ _ => trivial
    exact (h₁.trans (hsteps.keeps stable_follows ha)).mono fun h => h.2 h.1
  · refine (steps_perform m w).mono (fun _ w' hsteps => ?_) fun _ _ _ => trivial
    exact (h.trans (hsteps.keeps stable_follows ha)).mono
      fun h => h.2 ⟨h.1.1, h.1.2.resolve_left hm⟩

/-! ## Calls -/

theorem carryOut_follows {m : Mutation} (h : Unbroken v w₀
    (fun w => Attached v w ∧ (m = .groupChanged ∨ Tracks v FollowWaits w)) w) :
    (carryOut a v m).Ends w (fun _ w' => Unbroken v w₀ (Follows v FollowWaits) w')
      fun _ w' => Unbroken v w₀ (Follows v NothingWaits) w' := by
  refine ends_carryOut (fun hnone => h.same rfl fun _ =>
    follows_of_closed fun view hview => absurd hview (by simp [hnone])) fun _ _ => ?_
  have hnoted : Unbroken v w₀ (fun w => Attached v w ∧ (m = .groupChanged ∨
      Tracks v FollowWaits w)) (w.record (.begun v m)) := by
    refine (h.trans (.of_holds (P := fun _ => True) rfl trivial)).mono fun h => ?_
    exact ⟨stable_attached.same h.1.1 rfl rfl rfl rfl,
      h.1.2.imp id fun hw => stable_followWaits.same hw rfl rfl rfl rfl⟩
  refine (perform_follows ha hnoted).and ((steps_perform m _).mono (fun _ _ h => h)
    fun _ _ h => h.keeps stable_follows ha) |>.mono (fun _ _ hx => hx.1)
    fun e w' hx => ?_
  exact hnoted.after (hx.2.after (unbroken_failed w' m e _))

omit ha in
/-- A view that has nothing more to follow tracks its group, unless it takes no changes any more. -/
theorem takeWaiting_follows (h : Unbroken v w₀ (Follows v FollowWaits) w) :
    (takeWaiting v).Ends w
      (fun next w' => match next with
        | none => Unbroken v w₀ (Follows v NothingWaits) w'
        | some m => Unbroken v w₀
            (fun w' => Attached v w' ∧ (m = .groupChanged ∨ Tracks v FollowWaits w')) w')
      fun _ w' => Unbroken v w₀ (Follows v NothingWaits) w' := by
  have hattached (hw : Attached v w) (rest : List Mutation) :
      Attached v (w.modifyView v fun view => { view with pending := rest }) :=
    hw.modifyView (fun _ _ => rfl) fun _ _ => rfl
  -- There is nothing to follow for a view that takes no changes.
  have hstopped (view : View) (rest : List Mutation) (hview : w.views[v]? = some view)
      (hstop : view.closed = true ∨ ∀ group, w.groups[view.group]? = some group →
        group.members = []) : Unbroken v w₀ (Follows v NothingWaits)
        (w.modifyView v fun view => { view with pending := rest }) := by
    refine h.same rfl fun hw => ⟨hattached hw.attached rest,
      fun x group hx hopen hgroup hmembers => ?_⟩
    cases (World.views_modifyView_self hview _).symm.trans hx
    rcases hstop with hclosed | hempty
    · cases hclosed.symm.trans hopen
    · exact absurd (hempty group hgroup) hmembers
  refine ends_takeWaiting (fun hnone => ?_) (fun view hview hpending => ?_)
    (fun view _ rest hview _ hnone => ?_) (fun view group m rest hview _ hgroup hstop => ?_)
    fun view group m rest hview hpending _ _ _ => ?_
  · exact h.same rfl fun _ => follows_of_closed fun x hx => absurd hx (by simp [hnone])
  · refine h.same rfl fun hw => ⟨hw.attached, fun x group hx hopen hgroup hmembers => ?_⟩
    cases hview.symm.trans hx
    refine (hw.tracks view group hview hopen hgroup hmembers).imp id fun hwaits => ?_
    rw [FollowWaits, hpending] at hwaits
    cases hwaits.2
  · exact hstopped view rest hview (.inr fun group hgroup => nomatch hnone.symm.trans hgroup)
  · have hempty : view.closed = true ∨ ∀ group, w.groups[view.group]? = some group →
        group.members = [] := hstop.imp id fun hmembers group' hgroup' => by
      cases hgroup.symm.trans hgroup'
      exact hmembers
    exact ((hstopped view rest hview hempty).trans
      ((stable_follows_of stable_nothingWaits).keeps_recordAll _ _)).mono fun h => h.2 h.1
  · refine h.same rfl fun hw => ⟨hattached hw.attached rest, ?_⟩
    by_cases hm : m = .groupChanged
    · exact .inl hm
    · refine .inr fun x group' hx hopen hgroup' hmembers => ?_
      cases (World.views_modifyView_self hview _).symm.trans hx
      refine (hw.tracks view group' hview hopen hgroup' hmembers).imp id
        fun hwaits => ⟨hwaits.1, ?_⟩
      have hmem := hwaits.2
      rw [hpending] at hmem
      exact (List.mem_cons.1 hmem).resolve_left (Ne.symm hm)

/-- A call that follows the group, or that starts with a view that tracks it, ends with a view that
tracks it. -/
theorem runChange_follows {m : Mutation} (h : Unbroken v w₀
    (fun w => Attached v w ∧ (m = .groupChanged ∨ Tracks v FollowWaits w)) w) :
    (runChange a v m).Ends w (fun _ w' => Unbroken v w₀ (Follows v NothingWaits) w')
      fun _ w' => Unbroken v w₀ (Follows v NothingWaits) w' := by
  refine (carryOut_follows ha h).bind fun _ w₁ h₁ => ?_
  exact drain_ends (I := fun u => Unbroken v w₀ (Follows v FollowWaits) u)
    (J := fun m u => Unbroken v w₀
      (fun u => Attached v u ∧ (m = .groupChanged ∨ Tracks v FollowWaits u)) u)
    (fun _ hu => takeWaiting_follows hu) (fun _ _ hu => carryOut_follows ha hu) h₁

omit ha in
/-- A view that tracks its group when a change has ended has nothing to follow. -/
theorem settle_tracks (h : Tracks v NothingWaits w) : Tracks v FollowWaits (settle v w) :=
  Tracks.modifyView fun view group hview hopen hgroup hmembers =>
    .inl ((h view group hview hopen hgroup hmembers).resolve_right id)

omit ha in
theorem settle_follows (h : Follows v NothingWaits w) : Follows v FollowWaits (settle v w) :=
  ⟨h.attached.modifyView (fun _ _ => rfl) fun _ _ => rfl, settle_tracks h.tracks⟩

/-- A change that arrives keeps the view following its group, and if it is the change that follows
the group, the view tracks it in the end in any case. -/
theorem mutate_follows {m : Mutation} (hattached : Attached v w)
    (h : m = .groupChanged ∨ Tracks v FollowWaits w) :
    (mutate a v m).Ends w (fun _ w' => Unbroken v w (Follows v FollowWaits) w')
      fun _ w' => Unbroken v w (Follows v FollowWaits) w' := by
  have hsame : w.trace = w.trace ++ [] := (List.append_nil _).symm
  have hrecorded (e e' : Event) : Attached v ((w.record e).record e') :=
    stable_attached.same hattached rfl rfl rfl rfl
  refine ends_mutate (fun hnone => ?_) (fun view hview hnone => ?_)
    (fun view group r hview hgroup hstop => ?_) (fun view group r hview _ _ _ hbusy => ?_)
    fun view group hview _ _ _ hidle => ?_
  · exact .of_holds hsame (follows_of_closed fun x hx => absurd hx (by simp [hnone]))
  · refine .of_holds hsame ⟨hattached, fun x group hx _ hgroup => ?_⟩
    cases hview.symm.trans hx
    cases hnone.symm.trans hgroup
  · refine .of_holds (List.append_assoc _ _ _) ⟨hrecorded _ _,
      fun x group' hx hopen hgroup' hmembers => ?_⟩
    cases hview.symm.trans hx
    cases hgroup.symm.trans hgroup'
    rcases hstop with hclosed | hempty
    · cases hclosed.symm.trans hopen
    · exact absurd hempty hmembers
  · refine .of_holds (List.append_assoc _ _ _) ⟨Attached.modifyView (w := (w.record _).record _)
      (hrecorded _ _) (fun _ _ => rfl) fun _ _ => rfl,
      Tracks.modifyView fun x group' hx hopen hgroup' hmembers => ?_⟩
    cases hview.symm.trans hx
    rcases h with rfl | h
    · exact .inr ⟨hbusy, List.mem_append_right _ List.mem_cons_self⟩
    · exact (h view group' hview hopen hgroup' hmembers).imp id
        fun hwaits => ⟨hbusy, List.mem_append_left _ hwaits.2⟩
  · have hstart : Unbroken v w (fun w => Attached v w ∧ (m = .groupChanged ∨
        Tracks v FollowWaits w)) (w.modifyView v fun view => { view with busy := true }) := by
      refine .of_holds hsame ⟨hattached.modifyView (fun _ _ => rfl) fun _ _ => rfl,
        h.imp id fun h => Tracks.modifyView fun x group' hx hopen hgroup' hmembers =>
          .inl ((h x group' hx hopen hgroup' hmembers).resolve_right fun hwaits => ?_)⟩
      cases hview.symm.trans hx
      cases hidle.symm.trans hwaits.1
    exact (runChange_follows ha hstart).mono (fun _ _ h => h.same rfl settle_follows)
      fun _ _ h => h.same rfl settle_follows

end

end View

namespace World

open View

variable {R : Respond} {v : ViewRef} {w w' : World}

/-! ## Runs -/

/-- A view stays connected to its group, and one that follows its group follows it still. -/
def FollowsOn (v : ViewRef) (w w' : World) : Prop :=
  (Attached v w → Attached v w') ∧ Keeps v (Follows v FollowWaits) w w'

theorem chains_followsOn : Act.Chains (FollowsOn v) :=
  ⟨fun w => ⟨id, chains_keeps.refl w⟩,
    fun h h' => ⟨fun hw => h'.1 (h.1 hw), chains_keeps.trans h.2 h'.2⟩⟩

/-- A view that is there stays connected. -/
theorem Attached.framed (h : Attached v w) {view : View} (hview : w.views[v]? = some view)
    (hframed : Framed none w w') : Attached v w' := by
  intro view' hview' hopen
  obtain ⟨howners, hfollows⟩ := hframed.follows hview hview' hopen
  obtain ⟨c, hc, hsignal, hslot⟩ := h view hview (howners.isOpen hopen)
  exact ⟨c, hfollows c hc hslot, howners.group.symm ▸ hsignal, hslot⟩

theorem Aside.followsOn {es : List Event} (h : Aside v es w w') : FollowsOn v w w' := by
  have hattached (hw : Attached v w) : Attached v w' := by
    intro view' hview' hopen
    rcases h.view with hsame | ⟨view, hview, hclosed⟩
    · obtain ⟨c, hc, hsignal, hslot⟩ := hw view' (hsame ▸ hview') hopen
      refine ⟨c, h.follows c hc hslot fun x hx => ?_, hsignal, hslot⟩
      cases hview'.symm.trans hx
      exact hopen
    · cases hclosed.symm.trans hview'
      cases hopen
  refine ⟨hattached, es, h.trace, fun _ hes hw => ?_⟩
  rcases h.view with hsame | ⟨view, hview, hclosed⟩
  · refine ⟨hattached hw.attached, fun view group hview hopen hgroup hmembers => ?_⟩
    rw [h.snapshots.isDuplicate hes]
    exact hw.tracks view group (hsame ▸ hview) hopen (h.groups ▸ hgroup) hmembers
  · refine follows_of_closed fun x hx => ?_
    cases hclosed.symm.trans hx
    rfl

theorem announceView_follows (hR : CallsWithin R (FollowsOn v)) (n : Notice) (w w' : World)
    (h : announceView R v n w = some w') : Keeps v (Follows v FollowWaits) w w' :=
  announceView_within chains_keeps (fun k u u' hu => (hR k u u' hu).2.2.2)
    (fun u _ => stable_follows.keeps_record u _) (fun u => stable_follows.keeps_record u _) h

theorem mutate_followsOn (hR : CallsWithin R (FollowsOn v)) (m : Mutation) :
    (View.mutate (announceView R) v m).Within (FollowsOn v) := by
  intro w
  cases hview : w.views[v]? with
  | none => exact (Act.ends_of_error (View.mutate_viewless hview)).2 (chains_followsOn.refl w)
  | some view =>
    have hframed := View.mutate_framed (v := v)
      (announceView_framed (fun k u u' hu => (hR k u u' hu).1) v) m w
    have hends {w' : World} (hw' : Framed none w w')
        (hfollows : Follows v FollowWaits w → Unbroken v w (Follows v FollowWaits) w') :
        FollowsOn v w w' := by
      refine ⟨fun hw => hw.framed hview hw', ?_⟩
      by_cases hw : Follows v FollowWaits w
      · exact (hfollows hw).mono fun h _ => h
      · obtain ⟨es, hframe⟩ := hw'
        exact .of_holds hframe.trace fun h => absurd h hw
    by_cases hw : Follows v FollowWaits w
    · have hfollows := View.mutate_follows (announceView_follows hR) (m := m) hw.attached
        (.inr hw.tracks)
      exact (hframed.and hfollows).mono (fun _ _ h => hends h.1 fun _ => h.2)
        fun _ _ h => hends h.1 fun _ => h.2
    · exact hframed.mono (fun _ _ h => hends h fun hw' => absurd hw' hw)
        fun _ _ h => hends h fun hw' => absurd hw' hw

/-- A view that is being opened tracks its group. It is not connected to it yet, but nothing is
announced either. -/
theorem showFirst_tracks (s : SnapshotRef) (w : World) :
    (View.showFirst v s).Ends w (fun _ w' => Unbroken v w (Tracks v NothingWaits) w')
      fun _ _ => True := by
  unfold View.showFirst
  refine (refilter_tracks NothingWaits w).bind fun _ w₁ h₁ => ?_
  obtain ⟨htrace, htracks, -⟩ := h₁
  rw [Act.ends_bind]
  refine (steps_selectGraph s w₁).mono (fun _ w₂ hsteps => Act.ends_pure.2 ?_) fun _ _ _ => trivial
  have hkeeps : Keeps v (Tracks v NothingWaits) w₁ w₂ := hsteps.keeps stable_nothingWaits
    fun n u u' hu => by
      cases hu
      exact chains_keeps.refl u
  exact (Unbroken.trans (.of_holds (htrace.trans (List.append_nil _).symm) htracks) hkeeps).mono
    fun h => h.2 h.1

theorem openOn_followsOn {s : SnapshotRef} {c q : ChainRef} {scheduler : Option Scheduler}
    {counted : Bool} {hide : Value} {r : Except Failure ViewRef} (hw : w.views.length = v)
    (h : (View.openOn s c q scheduler counted hide).runIn w = some (r, w')) :
    FollowsOn v w w' := by
  subst hw
  obtain ⟨es, hframe⟩ := (View.openOn_framed s c q scheduler counted hide).of_runIn h
  have hends := View.openOn_ends s c q scheduler counted hide w
  cases r with
  | error e =>
    have hfollows : Follows w.views.length FollowWaits w' :=
      follows_of_closed fun x hx => absurd hx (by simp [hends.2 e w' h])
    exact ⟨fun _ => hfollows.attached, .of_holds hframe.trace fun _ => hfollows⟩
  | ok u =>
    obtain ⟨group, builder, hide', w₁, view, x, hrun, hview, rfl⟩ := hends.1 u w' h
    have hattached : Attached w.views.length
        (enrol w.views.length view (settle w.views.length w₁)) := by
      intro view' hview' _
      cases hview.symm.trans hview'
      exact ⟨_, List.mem_append_left _ (List.mem_append_left _
        (List.mem_append_right _ List.mem_cons_self)), rfl, rfl⟩
    have htracks : Unbroken w.views.length w (Tracks w.views.length NothingWaits) w₁ :=
      (showFirst_tracks s (View.withUnopened w group builder counted hide')).1 x w₁ hrun
    have hopened : Unbroken w.views.length w₁ (fun _ => True)
        (enrol w.views.length view (settle w.views.length w₁)) := .of_holds rfl trivial
    exact ⟨fun _ => hattached, (htracks.trans hopened).mono
      fun ht _ => ⟨hattached, settle_tracks ht.1⟩⟩

theorem concerns_follows : Concerns v (FollowsOn v) where
  chains := chains_followsOn
  elsewhere _ _ _ h := h.aside.followsOn
  mutate _ hR m := mutate_followsOn hR m
  opened _ _ _ _ _ _ _ _ _ hw h := openOn_followsOn hw h
  closed _ _ hview _ := by
    obtain ⟨es, haside⟩ := aside_shut hview
    exact haside.followsOn

/-- A view that is told that its group has changed tracks it in the end. -/
theorem follow_follows (hR : CallsWithin R (FollowsOn v)) {g : GroupRef} (hattached : Attached v w)
    (h : w.follow R (.group g) v = some w') : Unbroken v w (Follows v FollowWaits) w' := by
  have hends := View.mutate_follows (announceView_follows hR) (m := .groupChanged) hattached
    (.inl rfl)
  refine follow_ends (P := Unbroken v w (Follows v FollowWaits)) ?_ h
  exact hends.mono (fun _ _ h => h) fun e u h =>
    (h.trans (stable_follows.keeps_record u (.uncaught e))).mono fun h => h.2 h.1

/-- When a group announces a change, the announcement reaches the open views of the group. -/
theorem announceShared_follows (hR : CallsWithin R (FollowsOn v)) {view : View}
    (hattached : Attached v w) (hview : w.views[v]? = some view) (hopen : view.closed = false)
    (h : announceShared R (.group view.group) w = some w') :
    Unbroken v w (Follows v FollowWaits) w' := by
  obtain ⟨c, hc, hsignal, hslot⟩ := hattached view hview hopen
  obtain ⟨u, u', hbefore, hwithin, hafter, htold⟩ :=
    concerns_follows.reached hR hview hc hsignal hslot h
  have hbefore : FollowsOn v w u :=
    chains_followsOn.trans (concerns_follows.record w id) hbefore
  have htold : Unbroken v u (Follows v FollowWaits) u' := by
    rcases htold with hfollow | hclosed
    · exact follow_follows hR (hbefore.1 hattached) hfollow
    · exact hwithin.2.mono fun h => h (follows_of_closed hclosed)
  exact (hbefore.2.after (htold.trans hafter.2)).mono fun h => h.2 h.1

/-- What views share is of no account to a view that follows its group, apart from the group. -/
theorem shares_follows : Shares (FollowsOn v) where
  regrouped R hR g w w₁ w' hregroups hw' := by
    have hannounced := concerns_follows.announceGroup hR hw'
    have hfirst (hw : Attached v w) : Attached v w₁ := by
      intro view hview hopen
      rw [hregroups.connections]
      exact hw view (hregroups.views ▸ hview) hopen
    refine ⟨fun hw => hannounced.1 (hfirst hw), ?_⟩
    by_cases hmine : ∃ view, w.views[v]? = some view ∧ view.closed = false ∧ view.group = g
    · obtain ⟨view, hview, hopen, rfl⟩ := hmine
      by_cases hw : Attached v w
      · have hview₁ : w₁.views[v]? = some view := hregroups.views ▸ hview
        exact ((announceShared_follows hR (hfirst hw) hview₁ hopen hw').start
          hregroups.trace).mono fun h _ => h
      · exact (hannounced.2.start hregroups.trace).mono fun _ h => absurd h.attached hw
    · refine (hannounced.2.start hregroups.trace).mono fun h hw => h ⟨hfirst hw.attached, ?_⟩
      intro view group hview hopen hgroup hmembers
      rw [hregroups.views] at hview
      rw [hregroups.groups view.group fun heq => hmine ⟨view, hview, hopen, heq⟩] at hgroup
      rw [hregroups.snapshots.isDuplicate fun _ => List.not_mem_nil]
      exact hw.tracks view group hview hopen hgroup hmembers
  rechained R hR c filters w w' hw' := by
    have hfirst : FollowsOn v w (w.setChain c filters) :=
      Aside.followsOn (aside_of_views (List.append_nil _).symm rfl rfl rfl rfl rfl)
    refine chains_followsOn.trans hfirst (concerns_follows.announceShared hR ?_ hw')
    exact Aside.followsOn (aside_of_views rfl rfl rfl rfl rfl rfl)
  notified R hR c w w' hw' := concerns_follows.announceShared hR
    (Aside.followsOn (aside_of_views rfl rfl rfl rfl rfl rfl)) hw'
  ruled w f filter := Aside.followsOn (aside_of_views rfl rfl rfl rfl rfl rfl)

/-- A run keeps a view following its group, unless a change of it fails or a snapshot is edited. -/
theorem Reaches.follows (h : Reaches w w') : FollowsOn v w w' :=
  concerns_follows.reaches shares_follows h

/-- What holds of an open view between calls: it shows what is visible of its group, the window lies
within it, what is derived from it is up to date, and the graph and the diagram are those of the two
snapshots that the window resolves to. -/
structure Consistent (w : World) (view : View) (group : Group) : Prop where
  graphs : view.graphs = Sequence.visible w.isDuplicate view.hides group.members
  nonempty : view.graphs ≠ []
  window : view.window.FitsIn view.graphs.length
  positions : view.positions = view.graphs.map w.nameOf
  colors : view.colors = Highlight.colors view.selectedNodes.toList (w.contents view.graphs)
  graph : ∃ s, view.selection = some s ∧ w.firstGraph view = .ok s.first ∧
    w.secondGraph view = .ok s.second ∧ (s.first = s.second → s.graph = s.first) ∧
    (s.first ≠ s.second → ∃ d, w.snapshots[s.graph]? = some d ∧
      d.origin = .difference (some s.first) (some s.second))
  diagram : ∃ s d, view.selection = some s ∧ view.diagram = some d ∧ d.graph = s.graph

/-- In every state of a session, an open view of a group that is not empty is consistent and no
change of it is under way or waits, if no change of it has failed and no snapshot was edited in
place. -/
theorem Reachable.consistent (hw : w.Reachable) {view : View} {group : Group}
    (hview : w.views[v]? = some view) (hopen : view.closed = false)
    (hgroup : w.groups[view.group]? = some group) (hmembers : group.members ≠ [])
    (hflawless : failures v w.trace = []) (hes : Unedited w.trace) :
    view.busy = false ∧ view.pending = [] ∧ Consistent w view group := by
  obtain ⟨hidle, hpending⟩ := hw.idle hview
  have hsound := hw.sound.view hview
  obtain ⟨hresolved, hdrawn⟩ := hw.coherent hview (by simp [Whole, hflawless])
  have hnonempty := hresolved.graphs_ne_nil
  obtain ⟨s, hs, hfirst, hsecond⟩ := hresolved
  have hshows := hsound.selection s hs
  obtain ⟨w₀, commands, hinitial, hrun⟩ := hw
  obtain ⟨-, es, htrace, hfollows⟩ := (reaches_run hrun).follows (v := v)
  rw [hinitial.trace, List.nil_append] at htrace
  subst htrace
  have hstart : Follows v FollowWaits w₀ := follows_of_closed fun x hx => by
    rw [hinitial.views] at hx
    cases hx
  have htracks := (hfollows hflawless hes hstart).tracks view group hview hopen hgroup hmembers
  refine ⟨hidle, hpending, ?_, hnonempty, ⟨hsound.low, hsound.ordered, hsound.high hnonempty⟩,
    hsound.positions, hsound.colors hes, ⟨s, hs, hfirst, hsecond, hshows.single, hshows.pair⟩,
    hdrawn⟩
  exact htracks.resolve_right fun hwaits => by
    rw [FollowWaits, hidle] at hwaits
    cases hwaits.1

/-- A group of three snapshots, of which the second is a duplicate. -/
def withDuplicate : World :=
  let s : Snapshot := { id := 0, name := "s", blocks := .ofList [("b", {})], group := some 0 }
  { snapshots :=
      [s, { s with properties := .ofList [(Snapshot.duplicateProperty, .text "true")] }, s]
    pool := [0, 1, 2], groups := [⟨"g", [0, 1, 2]⟩], chains := [[], []] }

theorem initial_withDuplicate : Initial withDuplicate where
  sound := ⟨by decide, by decide, by simp [withDuplicate]⟩
  views := rfl
  trace := rfl

/-- A view on the first snapshot of `withDuplicate` that hides duplicates. -/
def duplicateHidden : World :=
  (withDuplicate.run [.openView 0 0 1 (some .byComponent) false (.bool true)]).getD {}

theorem reachable_duplicateHidden : duplicateHidden.Reachable :=
  initial_withDuplicate.reachable (by decide +kernel)

/-- The third snapshot is compared with the first one. -/
theorem duplicateHidden_compare :
    ((View.mutate (announceView fun _ w => some w) 0 (.selectDifference 2)).runIn
      duplicateHidden).any
      (fun p => failures 0 p.2.trace = [] ∧ Unedited p.2.trace ∧
        p.2.groups.map (·.members) = [[0, 1, 2]] ∧
        ∃ view ∈ p.2.views[0]?, view.closed = false ∧ view.group = 0 ∧ view.graphs = [0, 2] ∧
          view.window = ⟨0, 1⟩) = true := by
  unfold View.mutate runChange
  simp only [drain_eq_drainFirst _ _ 3]
  decide +kernel

theorem consistent_duplicateHidden : ∃ w view group, w.Reachable ∧ w.views[0]? = some view ∧
    w.groups[view.group]? = some group ∧ view.graphs = [0, 2] ∧ view.window = ⟨0, 1⟩ ∧
    Consistent w view group := by
  obtain ⟨⟨r, w⟩, hrun, hseen⟩ := Option.any_eq_true _ _ |>.1 duplicateHidden_compare
  obtain ⟨hflawless, hes, hmembers, view, hview, hopen, hgroup, hgraphs, hwindow⟩ :=
    of_decide_eq_true hseen
  have hreached : w.Reachable := by
    refine reachable_duplicateHidden.execute (c := .selectDifference 0 2)
      (r := r.map fun _ => .done) (by decide +kernel) ?_
    have hplace : duplicateHidden.pool[2]? = some 2 := by decide +kernel
    rw [Command.execute, Act.runIn_bind_ok (Command.runIn_pooled hplace), Command.runIn_change, hrun]
    rfl
  obtain ⟨group, hgroup', hgroupMembers⟩ :=
    group_of_members (g := view.group) hmembers (by rw [hgroup]; rfl)
  obtain ⟨-, -, hconsistent⟩ := hreached.consistent hview hopen hgroup' (by simp [hgroupMembers])
    hflawless hes
  exact ⟨w, view, group, hreached, hview, hgroup', hgraphs, hwindow, hconsistent⟩

end World

end SnapshotViewer
