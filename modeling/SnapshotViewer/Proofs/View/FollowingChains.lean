import SnapshotViewer.Proofs.View.ChangeParts
import SnapshotViewer.Proofs.View.DueNotices
import SnapshotViewer.Proofs.View.FollowingGroups
import SnapshotViewer.Proofs.View.ServiceCalls

/-!
# Views follow their filter chains

The diagram of an open view shows what would be drawn now (`View.Painted`), unless the view has
dropped a change of a filter chain since it was drawn (`missed`), a filter was changed that no chain
has announced yet (`View.Overdue`), or a change of a chain waits to be followed (`View.UpToDate`).
Every change of a view keeps this, and following a chain restores it. When a chain changes, its
views are not up to date until the announcement reaches them, which it does because they are
connected. Main statements: `World.Reachable.fresh_unless_missed`, and `World.stale_after_drop`: a
view drops a change of its chain while its group is empty, and shows the old diagram when the group
is filled again.
-/

namespace SnapshotViewer

/-- Whether a view has dropped a change of a filter chain since its diagram was drawn, after an
event, if `m` says so before it. -/
def miss (v : ViewRef) (m : Bool) : Event → Bool
  | .dropped u .filterChainChanged => m || u == v
  | .begun u .filterChainChanged | .announced u .graphChanged _ => m && u != v
  | _ => m

/-- A view has dropped a change of a filter chain since its diagram was drawn. -/
def missed (v : ViewRef) (es : List Event) : Bool := es.foldl (miss v) false

/-- Whether a filter was changed since a chain has announced a change, after an event, if `m` says
so before it. -/
def owe (c : ChainRef) (f : FilterRef) (m : Bool) : Event → Bool
  | .ruled g => m || g == f
  | .signalled (.chain d) => m && d != c
  | _ => m

/-- A filter was changed since a chain has announced a change. -/
def owed (c : ChainRef) (f : FilterRef) (es : List Event) : Bool := es.foldl (owe c f) false

theorem foldl_of_still {α β : Type} {f : β → α → β} {l : List α} (h : ∀ x ∈ l, ∀ b, f b x = b)
    (b : β) : l.foldl f b = b := by
  induction l generalizing b with
  | nil => rfl
  | cons x rest ih =>
    rw [List.foldl_cons, h x List.mem_cons_self]
    exact ih (fun y hy => h y (List.mem_cons_of_mem x hy)) b

theorem missed_concat (v : ViewRef) (es : List Event) (e : Event) :
    missed v (es ++ [e]) = miss v (missed v es) e := by
  simp [missed]

theorem owed_concat (c : ChainRef) (f : FilterRef) (es : List Event) (e : Event) :
    owed c f (es ++ [e]) = owe c f (owed c f es) e := by
  simp [owed]

theorem missed_of_silent {v : ViewRef} {es es' : List Event} (h : ∀ e ∈ es', ¬ e.Regards v) :
    missed v (es ++ es') = missed v es := by
  rw [missed, List.foldl_append]
  refine foldl_of_still (fun e he m => ?_) _
  have hsilent := h e he
  unfold miss
  split <;> simp_all [Event.Regards]

theorem owed_of_silent {v : ViewRef} {c : ChainRef} {f : FilterRef} {es es' : List Event}
    (h : ∀ e ∈ es', ¬ e.Regards v) : owed c f (es ++ es') = owed c f es := by
  rw [owed, List.foldl_append]
  refine foldl_of_still (fun e he m => ?_) _
  have hsilent := h e he
  unfold owe
  split <;> simp_all [Event.Regards]

theorem missed_drop (v : ViewRef) (es : List Event) (ms : List Mutation) :
    missed v (es ++ ms.map (.dropped v)) = (missed v es || ms.contains .filterChainChanged) := by
  induction ms generalizing es with
  | nil => simp
  | cons m rest ih =>
    rw [List.map_cons, List.append_cons, ih, missed_concat, List.contains_cons, ← Bool.or_assoc]
    congr 1
    cases m <;> simp [miss]

theorem owed_drop (c : ChainRef) (f : FilterRef) (v : ViewRef) (es : List Event)
    (ms : List Mutation) : owed c f (es ++ ms.map (.dropped v)) = owed c f es := by
  rw [owed, List.foldl_append]
  refine foldl_of_still (fun e he m => ?_) _
  obtain ⟨x, -, rfl⟩ := List.mem_map.1 he
  rfl

namespace View

open World

/-- The filter chains that a view follows. -/
def chains (view : View) : List ChainRef := [view.builder.chain, view.builder.sequenceChain]

/-- What is selected in a view is drawn as it would be drawn now. -/
def Painted (w : World) (view : View) : Prop :=
  ∀ s, view.selection = some s → ∃ d, view.diagram = some d ∧ d.graph = s.graph ∧
    view.builder.Painted w s.graph d.figures

/-- What is selected in a view, if it is there, is drawn as it would be drawn now. -/
def PaintedNow (v : ViewRef) (w : World) : Prop :=
  ∀ view, w.views[v]? = some view → view.Painted w

/-- A filter of a view was changed that its chain has not announced yet. -/
def Overdue (w : World) (view : View) : Prop :=
  ∃ c ∈ view.chains, ∃ f ∈ (w.chains[c]?).getD [], owed c f w.trace = true

instance (w : World) (view : View) : Decidable (view.Overdue w) :=
  inferInstanceAs (Decidable (∃ c ∈ view.chains, ∃ f ∈ (w.chains[c]?).getD [], _ = true))

/-- A change of a filter chain waits to be followed. -/
def RepaintWaits (view : View) : Prop :=
  view.busy = true ∧ Mutation.filterChainChanged ∈ view.pending

/-- A view is connected to the filter chains that it follows. -/
def Connected (v : ViewRef) (w : World) (view : View) : Prop :=
  ∀ c ∈ view.chains, ∃ d ∈ w.connections, d.signal = .chain c ∧ d.slot = .follow v

/-- The diagram of an open view of a group that is connected to its filter chains is as it would be
drawn now, or there is a reason why not. -/
def UpToDate (v : ViewRef) (waits : View → Prop) (w : World) : Prop :=
  BlocksStay w.trace → ∀ view, w.views[v]? = some view → view.closed = false →
    view.group < w.groups.length → view.Connected v w →
      view.Painted w ∨ missed v w.trace = true ∨ view.Overdue w ∨ waits view

variable {a : Announce} {v : ViewRef} {waits waits' : View → Prop} {w₀ w w' : World}
  {view : View} {es : List Event}

/-- A view stays connected if no connection of it is removed. -/
theorem Connected.mono {view' : View} (h : view.Connected v w)
    (hbuilder : view'.builder = view.builder)
    (hconnections : ∀ d ∈ w.connections, d.slot = .follow v → d ∈ w'.connections) :
    view'.Connected v w' := by
  intro c hc
  rw [chains, hbuilder] at hc
  obtain ⟨d, hd, hsignal, hslot⟩ := h c hc
  exact ⟨d, hconnections d hd hslot, hsignal, hslot⟩

/-! ## What keeps a view up to date -/

/-- Two states of a view that show the same diagram for the same reasons. -/
structure SamePicture (view view' : View) : Prop where
  group : view'.group = view.group
  builder : view'.builder = view.builder
  selection : view'.selection = view.selection
  diagram : view'.diagram = view.diagram
  closed : view'.closed = view.closed

theorem SamePicture.refl (view : View) : SamePicture view view := ⟨rfl, rfl, rfl, rfl, rfl⟩

theorem SameDrawn.samePicture {view' : View} (h : SameDrawn view view') : SamePicture view view' :=
  ⟨h.group, h.builder, h.selection, h.diagram, h.closed⟩

theorem Painted.mono {view' : View} (h : view.Painted w) (hsame : SamePicture view view')
    (hkept : ∀ r fs, view.builder.Painted w r fs → view.builder.Painted w' r fs) :
    view'.Painted w' := by
  intro s hs
  obtain ⟨d, hd, hgraph, hpainted⟩ := h s (hsame.selection ▸ hs)
  exact ⟨d, hsame.diagram.trans hd, hgraph, hsame.builder ▸ hkept _ _ hpainted⟩

/-- Nothing is done to the view, the snapshots or the filters that it would have to be drawn anew
for. -/
theorem UpToDate.mono (h : UpToDate v waits w) (htrace : w'.trace = w.trace ++ es)
    (hsnapshots : SnapshotsKept es w w') (hblocks : BlocksKept es w w') (hes : Unedited es)
    (hmissed : missed v w.trace = true → missed v w'.trace = true)
    (hgroups : w'.groups.length = w.groups.length) (hviews : w'.views[v]? = w.views[v]?)
    (hconnections : ∀ d : Connection, d.slot = .follow v →
      (d ∈ w'.connections ↔ d ∈ w.connections))
    (hchains : ∀ view, w.views[v]? = some view → view.closed = false → view.Connected v w →
      ∀ c ∈ view.chains, w'.chains[c]? = w.chains[c]? ∧ w'.filtersOf c = w.filtersOf c ∧
        ∀ f ∈ (w.chains[c]?).getD [], owed c f w.trace = true → owed c f w'.trace = true) :
    UpToDate v waits w' := by
  intro hstay view hview hopen hgroup hconnected
  rw [htrace] at hstay
  rw [hviews] at hview
  rw [hgroups] at hgroup
  have hconnected : view.Connected v w :=
    hconnected.mono rfl fun d hd hslot => (hconnections d hslot).1 hd
  have hfilters (c : ChainRef) (hc : c ∈ view.chains) : w'.filtersOf c = w.filtersOf c :=
    (hchains view hview hopen hconnected c hc).2.1
  rcases h hstay.left view hview hopen hgroup hconnected with
    hpainted | hm | ⟨c, hc, f, hf, howed⟩ | hwaits
  · refine .inl (hpainted.mono (.refl view) fun r fs hr => ?_)
    exact hr.mono hsnapshots hblocks hes hstay.right (hfilters _ (by simp [chains]))
      (hfilters _ (by simp [chains]))
  · exact .inr (.inl (hmissed hm))
  · obtain ⟨hsame, -, hkept⟩ := hchains view hview hopen hconnected c hc
    exact .inr (.inr (.inl ⟨c, hc, f, hsame ▸ hf, hkept f hf howed⟩))
  · exact .inr (.inr (.inr hwaits))

theorem UpToDate.elsewhere (hw : UpToDate v waits w) (h : Elsewhere v es w w')
    (hes : Unedited es) : UpToDate v waits w' := by
  refine hw.mono h.trace h.snapshots h.blocks hes (fun hm => ?_) (by rw [h.groups]) h.view h.follows
    fun view _ _ _ c _ => ?_
  · rw [h.trace, missed_of_silent h.silent, hm]
  · refine ⟨by rw [h.chains], filtersOf_congr (by rw [h.chains]) (by simp [h.filters]),
      fun f _ howed => ?_⟩
    rw [h.trace, owed_of_silent h.silent, howed]

/-- Something is noted that does not make the view or its filters any different. -/
theorem UpToDate.record (hw : UpToDate v waits w) {e : Event}
    (hmiss : ∀ m, m = true → miss v m e = true) (howe : ∀ c f m, m = true → owe c f m e = true) :
    UpToDate v waits (w.record e) := by
  intro hstay view hview hopen hgroup hconnected
  rcases hw (BlocksStay.left hstay) view hview hopen hgroup hconnected with
    h | hm | ⟨c, hc, f, hf, h⟩ | h
  · exact .inl h
  · exact .inr (.inl ((missed_concat v w.trace e).trans (hmiss _ hm)))
  · exact .inr (.inr (.inl ⟨c, hc, f, hf, (owed_concat c f w.trace e).trans (howe c f _ h)⟩))
  · exact .inr (.inr (.inr h))

/-- What a view shows is not written to. -/
theorem UpToDate.write (hw : UpToDate v waits w) {f : View → View}
    (hf : ∀ view, SamePicture view (f view))
    (hwaits : ∀ view, w.views[v]? = some view → waits view → waits' (f view)) :
    UpToDate v waits' (w.modifyView v f) := by
  intro hstay view hview hopen hgroup hconnected
  rw [views_modifyView, if_pos rfl] at hview
  obtain ⟨before, hbefore, rfl⟩ := Option.map_eq_some_iff.1 hview
  have hsame := hf before
  rw [hsame.group] at hgroup
  have hconnected : before.Connected v w := hconnected.mono hsame.builder.symm fun d hd _ => hd
  rcases hw hstay before hbefore (hsame.closed.symm.trans hopen) hgroup hconnected with
    h | hm | ⟨c, hc, g, hg, h⟩ | h
  · exact .inl (h.mono hsame fun _ _ h => h)
  · exact .inr (.inl hm)
  · refine .inr (.inr (.inl ⟨c, ?_, g, hg, h⟩))
    rw [chains, hsame.builder]
    exact hc
  · exact .inr (.inr (.inr (hwaits before hbefore h)))

/-- A view that drops what waits has missed a change of a filter chain if one waits. -/
theorem UpToDate.drop (hw : UpToDate v waits w) {ms : List Mutation}
    (hwaits : ∀ view, w.views[v]? = some view → waits view →
      Mutation.filterChainChanged ∈ ms ∨ waits' view) :
    UpToDate v waits' (w.recordAll (ms.map (.dropped v))) := by
  intro hstay view hview hopen hgroup hconnected
  have hmissed : missed v (w.recordAll (ms.map (.dropped v))).trace =
      (missed v w.trace || ms.contains .filterChainChanged) := missed_drop v w.trace ms
  rcases hw (BlocksStay.left hstay) view hview hopen hgroup hconnected with
    h | hm | ⟨c, hc, f, hf, h⟩ | h
  · exact .inl h
  · exact .inr (.inl (by rw [hmissed, hm, Bool.true_or]))
  · exact .inr (.inr (.inl ⟨c, hc, f, hf, (owed_drop c f v w.trace ms).trans h⟩))
  · rcases hwaits view hview h with hmem | hwaits
    · exact .inr (.inl (by rw [hmissed, List.contains_iff_mem.2 hmem, Bool.or_true]))
    · exact .inr (.inr (.inr hwaits))

/-- What waits is of no account if it does not wait, or if it waits in another way. -/
theorem UpToDate.weaken (hw : UpToDate v waits w)
    (hwaits : ∀ view, w.views[v]? = some view → waits view → waits' view) :
    UpToDate v waits' w :=
  fun hstay view hview hopen hgroup hconnected =>
    (hw hstay view hview hopen hgroup hconnected).imp id (.imp id (.imp id (hwaits view hview)))

/-- A view that waits anyhow may show anything. -/
theorem upToDate_waiting : UpToDate v (fun _ => True) w :=
  fun _ _ _ _ _ _ => .inr (.inr (.inr trivial))

/-- A view that is not open is up to date in every way. -/
theorem upToDate_of_closed (h : ∀ view, w.views[v]? = some view → view.closed = true) :
    UpToDate v waits w :=
  fun _ view hview hopen _ _ => absurd hopen (by simp [h view hview])

/-- A view of a group that is not there takes no changes. -/
theorem upToDate_of_groupless (hview : w.views[v]? = some view)
    (hnone : w.groups[view.group]? = none) : UpToDate v waits w := by
  intro _ x hx _ hgroup _
  cases hview.symm.trans hx
  exact absurd hgroup (Nat.not_lt.2 (List.getElem?_eq_none_iff.1 hnone))

theorem PaintedNow.of_found (hview : w.views[v]? = some view) (h : view.Painted w) :
    PaintedNow v w := by
  intro x hx
  cases hview.symm.trans hx
  exact h

theorem PaintedNow.upToDate (h : PaintedNow v w) : UpToDate v waits w :=
  fun _ view hview _ _ _ => .inl (h view hview)

/-- What can be read off a view is noted when it announces a change. Whether a change was missed
does not depend on it, unless the view announces that it shows another graph. -/
theorem keeps_noteReading (w : World) {n : Notice} (hn : n ≠ .graphChanged) :
    Keeps v (UpToDate v waits) w (w.noteReading v n) :=
  noteReading_within chains_keeps (fun u r => .of_holds rfl fun hu => hu.record
    (fun m hm => by cases n <;> simp_all [miss]) fun _ _ _ h => h) w

/-- The view is up to date, and the graph it announces, if it is the graph, was just drawn. -/
def Announceable (v : ViewRef) (n : Notice) (w : World) : Prop :=
  UpToDate v RepaintWaits w ∧ (n = .graphChanged → PaintedNow v w)

/-- Before the ends of a window are announced, their graph was drawn. -/
theorem Replaced.paintedNow {s : Selection} (h : Replaced v s w view w') : PaintedNow v w' := by
  obtain ⟨d, hview, hgraph, hpainted⟩ := h.found
  refine .of_found hview fun t ht => ?_
  cases ht
  exact ⟨d, rfl, hgraph, hpainted⟩

/-! ## Operations of a view -/

section

variable (ha : ∀ n w w', a v n w = some w' →
  Unbroken v w (fun w' => Announceable v n w → UpToDate v RepaintWaits w') w')

include ha

/-- A view that is up to date is so still after an announcement. -/
theorem announce_upToDate {n : Notice} (h : Unbroken v w₀ (Announceable v n) w) :
    (announce a v n).Ends w (fun _ w' => Unbroken v w₀ (UpToDate v RepaintWaits) w')
      fun _ _ => True :=
  Act.ends_yield.2 fun w' hw' => (h.trans (ha n w w' hw')).mono fun h => h.2 h.1

theorem performs_upToDate :
    Performs a v (Keeps v (UpToDate v RepaintWaits)) fun _ _ _ => True where
  chains := chains_keeps
  write w f hf _ := .of_holds (List.append_nil _).symm fun hw =>
    hw.write (fun view => (hf view).samePicture) fun view _ hwaits => by
      rwa [RepaintWaits, (hf view).busy, (hf view).pending]
  logged w r := .of_holds rfl fun hw => hw.record (fun _ h => h) fun _ _ _ h => h
  announce n w w' hn h := (ha n w w' h).mono fun h hw => h ⟨hw, fun heq => absurd heq hn⟩
  shows w view first second hview hfirst _ _ := by
    refine showEnds_replaces hview hfirst fun s w₁ _ _ hreplaced => ?_
    obtain ⟨notes, htrace, -⟩ := hreplaced.notes
    have hready : Unbroken v w (Announceable v .graphChanged) w₁ :=
      .of_holds htrace ⟨hreplaced.paintedNow.upToDate, fun _ => hreplaced.paintedNow⟩
    refine (announce_upToDate ha hready).bind fun _ w₂ h₂ => ?_
    exact (announce_upToDate ha (h₂.mono fun h => ⟨h, by simp⟩)).mono
      (fun _ _ h => h.mono fun h _ => h) fun _ _ h => h

/-- A change of a filter chain lets the view draw its graph anew. -/
theorem filterChainChanged_upToDate (h : Unbroken v w₀ (fun _ => True) w) :
    (filterChainChanged a v).Ends w (fun _ w' => Unbroken v w₀ (UpToDate v RepaintWaits) w')
      fun _ _ => True := by
  unfold filterChainChanged
  rw [Act.ends_bind]
  refine Act.ends_view (fun view hview => ?_) fun _ => trivial
  cases hgraph : view.graph? with
  | none => exact Act.ends_throw.2 trivial
  | some graph =>
    dsimp only
    obtain ⟨s, hs, rfl⟩ := Option.map_eq_some_iff.1 hgraph
    refine ((draw_painted hview s.graph).and (draw_noted s.graph w)).mono (fun _ _ h => h)
      (fun _ _ _ => trivial) |>.bind fun _ w₁ hdrawn => ?_
    obtain ⟨⟨d, hview₁, hd, hpainted⟩, notes, htrace, -⟩ := hdrawn
    refine announce_upToDate ha ((h.trans (Unbroken.of_holds htrace ?_)).mono
      fun h => ⟨h.2, by simp⟩)
    refine (PaintedNow.of_found hview₁ fun t ht => ?_).upToDate
    cases hs.symm.trans ht
    exact ⟨d, rfl, hd, hpainted⟩

/-! ## Calls -/

/-- A change keeps a view up to date, and makes it so if it follows a filter chain. -/
theorem carryOut_upToDate {m : Mutation} (h : Unbroken v w₀
    (fun w => m = .filterChainChanged ∨ UpToDate v RepaintWaits w) w) :
    (carryOut a v m).Ends w (fun _ w' => Unbroken v w₀ (UpToDate v RepaintWaits) w')
      fun _ w' => Unbroken v w₀ (UpToDate v NothingWaits) w' := by
  refine ends_carryOut (fun hnone => h.same rfl fun _ =>
    upToDate_of_closed fun view hview => absurd hview (by simp [hnone])) fun _ _ => ?_
  have hnoted : Unbroken v w₀ (fun w => m = .filterChainChanged ∨ UpToDate v RepaintWaits w)
      (w.record (.begun v m)) := by
    refine (h.trans (.of_holds (P := fun _ => True) rfl trivial)).mono fun h => ?_
    by_cases hm : m = .filterChainChanged
    · exact .inl hm
    · refine .inr ((h.1.resolve_left hm).record (fun _ hmissed => ?_) fun _ _ _ h => h)
      unfold miss
      split <;> simp_all
  have hperform : (perform a v m).Ends (w.record (.begun v m))
      (fun _ w' => Unbroken v w₀ (UpToDate v RepaintWaits) w') fun _ _ => True := by
    by_cases hm : m = .filterChainChanged
    · subst hm
      exact filterChainChanged_upToDate ha (hnoted.mono fun _ => trivial)
    · exact ((performs_upToDate ha).perform hm _).mono (fun _ _ hkeeps =>
        (hnoted.trans hkeeps).mono fun h => h.2 (h.1.resolve_left hm)) fun _ _ h => h
  refine (hperform.and (steps_perform m _)).mono (fun _ _ h' => h'.1) fun e w' h' => ?_
  obtain ⟨es, htrace⟩ := h'.2.grows fun n u u' hu => (ha n u u' hu).imp fun _ h => h.1
  exact (hnoted.after (.of_holds (P := fun _ => True) htrace trivial)).after
    (unbroken_failed w' m e _)

omit ha in
/-- A view that has nothing more to follow is up to date, unless it takes no changes any more. -/
theorem takeWaiting_upToDate (h : Unbroken v w₀ (UpToDate v RepaintWaits) w) :
    (takeWaiting v).Ends w
      (fun next w' => match next with
        | none => Unbroken v w₀ (UpToDate v NothingWaits) w'
        | some m => Unbroken v w₀
            (fun w' => m = .filterChainChanged ∨ UpToDate v RepaintWaits w') w')
      fun _ w' => Unbroken v w₀ (UpToDate v NothingWaits) w' := by
  -- What was taken is among what the view waits for, until it is known what becomes of it.
  have hwritten {view : View} {m : Mutation} {rest : List Mutation}
      (hview : w.views[v]? = some view) (hpending : view.pending = m :: rest)
      (hw : UpToDate v RepaintWaits w) : UpToDate v
      (fun x => x.busy = true ∧ Mutation.filterChainChanged ∈ m :: rest)
      (w.modifyView v fun view => { view with pending := rest }) :=
    hw.write (fun _ => ⟨rfl, rfl, rfl, rfl, rfl⟩) fun x hx hwaits => by
      cases hview.symm.trans hx
      exact ⟨hwaits.1, hpending ▸ hwaits.2⟩
  refine ends_takeWaiting (fun hnone => ?_) (fun view hview hpending => ?_)
    (fun view _ rest hview _ hnone => ?_) (fun view _ m rest hview hpending _ _ => ?_)
    fun view _ m rest hview hpending _ _ _ => ?_
  · exact h.same rfl fun _ => upToDate_of_closed fun x hx => absurd hx (by simp [hnone])
  · refine h.same rfl fun hw => hw.weaken fun x hx hwaits => ?_
    cases hview.symm.trans hx
    rw [RepaintWaits, hpending] at hwaits
    cases hwaits.2
  · exact h.same rfl fun _ => upToDate_of_groupless (World.views_modifyView_self hview _) hnone
  · have hdropped (hw : UpToDate v RepaintWaits w) : UpToDate v NothingWaits
        ((w.modifyView v fun view => { view with pending := rest }).recordAll
          ((m :: rest).map (.dropped v))) :=
      (hwritten hview hpending hw).drop fun _ _ hwaits => .inl hwaits.2
    exact (h.trans (.of_holds (P := fun _ => True) rfl trivial)).mono fun hw => hdropped hw.1
  · refine h.same rfl fun hw => ?_
    by_cases hm : m = .filterChainChanged
    · exact .inl hm
    · exact .inr ((hwritten hview hpending hw).weaken fun x hx hwaits => by
        cases (World.views_modifyView_self hview _).symm.trans hx
        exact ⟨hwaits.1, (List.mem_cons.1 hwaits.2).resolve_left (Ne.symm hm)⟩)

/-- A call that follows a filter chain, or that starts with a view that is up to date, ends so. -/
theorem runChange_upToDate {m : Mutation} (h : Unbroken v w₀
    (fun w => m = .filterChainChanged ∨ UpToDate v RepaintWaits w) w) :
    (runChange a v m).Ends w (fun _ w' => Unbroken v w₀ (UpToDate v NothingWaits) w')
      fun _ w' => Unbroken v w₀ (UpToDate v NothingWaits) w' := by
  refine (carryOut_upToDate ha h).bind fun _ w₁ h₁ => ?_
  exact drain_ends (I := fun u => Unbroken v w₀ (UpToDate v RepaintWaits) u)
    (J := fun m u => Unbroken v w₀
      (fun u => m = .filterChainChanged ∨ UpToDate v RepaintWaits u) u)
    (fun _ hu => takeWaiting_upToDate hu) (fun _ _ hu => carryOut_upToDate ha hu) h₁

omit ha in
theorem settle_upToDate (h : UpToDate v NothingWaits w) : UpToDate v RepaintWaits (settle v w) :=
  h.write (fun _ => ⟨rfl, rfl, rfl, rfl, rfl⟩) fun _ _ => False.elim

/-- A change that arrives keeps the view up to date, and makes it so in any case if it follows a
filter chain. -/
theorem mutate_upToDate {m : Mutation}
    (h : m = .filterChainChanged ∨ UpToDate v RepaintWaits w) :
    (mutate a v m).Ends w (fun _ w' => Unbroken v w (UpToDate v RepaintWaits) w')
      fun _ w' => Unbroken v w (UpToDate v RepaintWaits) w' := by
  have hsame : w.trace = w.trace ++ [] := (List.append_nil _).symm
  have hlogged (hw : UpToDate v RepaintWaits w) (r : Log.Record) :
      UpToDate v RepaintWaits (w.record (.logged r)) := hw.record (fun _ h => h) fun _ _ _ h => h
  have hdeferred (hw : UpToDate v RepaintWaits w) (r : Log.Record) :
      UpToDate v RepaintWaits ((w.record (.logged r)).record (.deferred v m)) :=
    (hlogged hw r).record (fun _ h => h) fun _ _ _ h => h
  refine ends_mutate (fun hnone => ?_) (fun view hview hnone => ?_)
    (fun _ _ r _ _ _ => ?_) (fun view _ r hview _ _ _ hbusy => ?_)
    fun view _ hview _ _ _ hidle => ?_
  · exact .of_holds hsame (upToDate_of_closed fun x hx => absurd hx (by simp [hnone]))
  · exact .of_holds hsame (upToDate_of_groupless hview hnone)
  · have hdropped : UpToDate v RepaintWaits
        ((w.record (.logged r)).recordAll ([m].map (.dropped v))) := by
      -- A change of a chain that is dropped is missed, whatever the view shows.
      rcases h with rfl | hw
      · exact upToDate_waiting.drop fun _ _ _ => .inl List.mem_cons_self
      · exact (hlogged hw r).drop fun _ _ hwaits => .inr hwaits
    exact .of_holds (List.append_assoc _ _ _) hdropped
  · refine .of_holds (List.append_assoc _ _ _) ?_
    -- A change of a chain that waits will be followed, whatever the view shows.
    rcases h with rfl | hw
    · refine (upToDate_waiting (w := (w.record _).record _)).write
        (fun _ => ⟨rfl, rfl, rfl, rfl, rfl⟩) fun x hx _ => ?_
      cases hview.symm.trans hx
      exact ⟨hbusy, List.mem_append_right _ List.mem_cons_self⟩
    · exact (hdeferred hw _).write (fun _ => ⟨rfl, rfl, rfl, rfl, rfl⟩)
        fun _ _ hwaits => ⟨hwaits.1, List.mem_append_left _ hwaits.2⟩
  · have hstart : Unbroken v w (fun w => m = .filterChainChanged ∨ UpToDate v RepaintWaits w)
        (w.modifyView v fun view => { view with busy := true }) := by
      refine .of_holds hsame (h.imp id fun hw =>
        hw.write (fun _ => ⟨rfl, rfl, rfl, rfl, rfl⟩) fun x hx hwaits => ?_)
      cases hview.symm.trans hx
      cases hidle.symm.trans hwaits.1
    exact (runChange_upToDate ha hstart).mono (fun _ _ h => h.same rfl settle_upToDate)
      fun _ _ h => h.same rfl settle_upToDate

end

end View

namespace World

open View

variable {R : Respond} {v : ViewRef} {w w' : World} {view : View} {es : List Event}

/-! ## Runs -/

/-- An open view is connected to its filter chains. -/
def AttachedToChains (v : ViewRef) (w : World) : Prop :=
  ∀ view, w.views[v]? = some view → view.closed = false → view.Connected v w

/-- A view stays connected to its filter chains, and one that is up to date stays so. -/
def StaysUpToDate (v : ViewRef) (w w' : World) : Prop :=
  (AttachedToChains v w → AttachedToChains v w') ∧ Keeps v (UpToDate v RepaintWaits) w w'

theorem chains_staysUpToDate : Act.Chains (StaysUpToDate v) :=
  ⟨fun w => ⟨id, chains_keeps.refl w⟩,
    fun h h' => ⟨fun hw => h'.1 (h.1 hw), chains_keeps.trans h.2 h'.2⟩⟩

/-- A view that is there stays connected. -/
theorem AttachedToChains.framed (h : AttachedToChains v w) (hview : w.views[v]? = some view)
    (hframed : Framed none w w') : AttachedToChains v w' := by
  intro view' hview' hopen
  obtain ⟨howners, hfollows⟩ := hframed.follows hview hview' hopen
  exact (h view hview (howners.isOpen hopen)).mono howners.builder hfollows

theorem Elsewhere.staysUpToDate (h : Elsewhere v es w w') : StaysUpToDate v w w' := by
  refine ⟨fun hw view hview hopen => ?_, es, h.trace, fun _ hes hw => hw.elsewhere h hes⟩
  exact (hw view (h.view ▸ hview) hopen).mono rfl fun d hd hslot => (h.follows d hslot).2 hd

/-- Nothing is done but to note something that is of no account to the view. -/
theorem keeps_record (w : World) {e : Event} (hmiss : ∀ m, m = true → miss v m e = true)
    (howe : ∀ c f m, m = true → owe c f m e = true) :
    Keeps v (UpToDate v RepaintWaits) w (w.record e) :=
  .of_holds rfl fun hw => hw.record hmiss howe

theorem announceView_upToDate (hR : CallsWithin R (StaysUpToDate v)) (n : Notice) (w w' : World)
    (h : announceView R v n w = some w') :
    Unbroken v w (fun w' => Announceable v n w → UpToDate v RepaintWaits w') w' := by
  have hnoted : Unbroken v w (fun w' => Announceable v n w → UpToDate v RepaintWaits w')
      (w.noteReading v n) := by
    by_cases hn : n = .graphChanged
    · cases hview : w.views[v]? with
      | none =>
        rw [noteReading, hview]
        exact .of_holds (List.append_nil _).symm fun hw => hw.1
      | some view =>
        rw [noteReading_of_found hview]
        exact .of_holds rfl fun hw => PaintedNow.upToDate fun x hx => hw.2 hn x hx
    · exact (keeps_noteReading w hn).mono fun h hw => h hw.1
  have hsignal (u : World) :
      Keeps v (UpToDate v RepaintWaits) u (u.record (.signalled (.view v n))) :=
    keeps_record u (fun _ h => h) fun _ _ _ h => h
  have hcalled : Keeps v (UpToDate v RepaintWaits) (w.noteReading v n) w' :=
    announced_within chains_keeps (fun k u u' hu => (hR k u u' hu).2.2.2) hsignal h
  exact (hnoted.trans hcalled).mono fun h hw => h.2 (h.1 hw)

theorem mutate_staysUpToDate (hR : CallsWithin R (StaysUpToDate v)) (m : Mutation) :
    (View.mutate (announceView R) v m).Within (StaysUpToDate v) := by
  intro w
  cases hview : w.views[v]? with
  | none => exact (Act.ends_of_error (View.mutate_viewless hview)).2 (chains_staysUpToDate.refl w)
  | some view =>
    have hframed := View.mutate_framed (v := v)
      (announceView_framed (fun k u u' hu => (hR k u u' hu).1) v) m w
    have hends {w' : World} (hw' : Framed none w w')
        (hkept : Keeps v (UpToDate v RepaintWaits) w w') : StaysUpToDate v w w' :=
      ⟨fun hw => hw.framed hview hw', hkept⟩
    by_cases hw : UpToDate v RepaintWaits w
    · have hkept := View.mutate_upToDate (announceView_upToDate hR) (m := m) (.inr hw)
      exact (hframed.and hkept).mono (fun _ _ h => hends h.1 (h.2.mono fun h _ => h))
        fun _ _ h => hends h.1 (h.2.mono fun h _ => h)
    · have hbroken {w' : World} (h : Framed none w w') : StaysUpToDate v w w' := by
        obtain ⟨es, hframe⟩ := id h
        exact hends h (.of_holds hframe.trace fun h => absurd h hw)
      exact hframed.mono (fun _ _ h => hbroken h) fun _ _ h => hbroken h

/-- While a view is opened, nothing is announced. What it selects is drawn. -/
theorem performs_paintedNow :
    Performs (fun _ _ w => some w) v (fun w w' => PaintedNow v w → PaintedNow v w')
      fun _ _ _ => True where
  chains := ⟨fun _ => id, fun h h' hw => h' (h hw)⟩
  write w f hf _ hw x hx := by
    rw [views_modifyView, if_pos rfl] at hx
    obtain ⟨before, hbefore, rfl⟩ := Option.map_eq_some_iff.1 hx
    exact (hw before hbefore).mono (hf before).samePicture fun _ _ h => h
  logged _ _ hw := hw
  announce n w w' _ h := by
    cases h
    exact id
  shows w view first second hview hfirst _ _ := by
    refine showEnds_replaces hview hfirst fun s w₁ _ _ hreplaced => ?_
    rw [Act.ends_bind]
    refine Act.ends_yield.2 fun w₂ h₂ => Act.ends_yield.2 fun w₃ h₃ _ => ?_
    cases h₂
    cases h₃
    exact hreplaced.paintedNow

/-- A view that has opened shows what is drawn now. -/
theorem showFirst_paintedNow {group : GroupRef} {builder : Builder} {counted : Bool} {hide : Value}
    (s : SnapshotRef) (w : World) :
    (View.showFirst w.views.length s).Ends (View.withUnopened w group builder counted hide)
      (fun _ w' => PaintedNow w.views.length w') fun _ _ => True := by
  have hperforms := performs_paintedNow (v := w.views.length)
  have hunopened : PaintedNow w.views.length (View.withUnopened w group builder counted hide) := by
    intro view hview t ht
    cases List.getElem?_concat_length.symm.trans hview
    cases ht
  exact (hperforms.showFirst s _).mono (fun _ _ h => h hunopened) fun _ _ h => h

theorem openOn_staysUpToDate {s : SnapshotRef} {c q : ChainRef} {scheduler : Option Scheduler}
    {counted : Bool} {hide : Value} {r : Except Failure ViewRef} (hw : w.views.length = v)
    (h : (View.openOn s c q scheduler counted hide).runIn w = some (r, w')) :
    StaysUpToDate v w w' := by
  subst hw
  obtain ⟨es, hframe⟩ := (View.openOn_framed s c q scheduler counted hide).of_runIn h
  have hends := View.openOn_ends s c q scheduler counted hide w
  cases r with
  | error e =>
    have hnone := hends.2 e w' h
    exact ⟨fun _ view hview => absurd hview (by simp [hnone]), .of_holds hframe.trace fun _ =>
      upToDate_of_closed fun view hview => absurd hview (by simp [hnone])⟩
  | ok u =>
    obtain ⟨group, builder, hide', w₁, view, x, hrun, hview, rfl⟩ := hends.1 u w' h
    have hpainted := (showFirst_paintedNow s w).1 x w₁ hrun
    refine ⟨fun _ view' hview' _ c hc => ?_, .of_holds hframe.trace fun _ => ?_⟩
    · cases hview.symm.trans hview'
      simp only [View.chains, List.mem_cons, List.not_mem_nil, or_false] at hc
      rcases hc with rfl | rfl
      · exact ⟨_, List.mem_append_left _ (List.mem_append_right _ List.mem_cons_self), rfl, rfl⟩
      · exact ⟨_, List.mem_append_right _ List.mem_cons_self, rfl, rfl⟩
    · refine PaintedNow.upToDate (PaintedNow.of_found (w := enrol ..) hview ?_)
      rw [settle, views_modifyView, if_pos rfl] at hview
      obtain ⟨before, hbefore, rfl⟩ := Option.map_eq_some_iff.1 hview
      exact (hpainted before hbefore).mono ⟨rfl, rfl, rfl, rfl, rfl⟩ fun _ _ h => h

/-- A view that is closed shows whatever it shows. -/
theorem shut_staysUpToDate (hview : w.views[v]? = some view) :
    StaysUpToDate v w ((View.shut v w).announced v .windowChanged) := by
  obtain ⟨es, haside⟩ := aside_shut hview
  have hclosed : ∀ x, ((View.shut v w).announced v .windowChanged).views[v]? = some x →
      x.closed = true := by
    have hself : (View.shut v w).views[v]? = some { view with closed := true, pending := [] } :=
      views_modifyView_self (w := w.disconnect _) hview _
    intro x hx
    rw [announced_of_found hself] at hx
    cases hself.symm.trans hx
    rfl
  exact ⟨fun _ x hx hopen => absurd hopen (by simp [hclosed x hx]),
    .of_holds haside.trace fun _ => upToDate_of_closed hclosed⟩

theorem concerns_staysUpToDate : Concerns v (StaysUpToDate v) where
  chains := chains_staysUpToDate
  elsewhere _ _ _ h := h.staysUpToDate
  mutate _ hR m := mutate_staysUpToDate hR m
  opened _ _ _ _ _ _ _ _ _ hw h := openOn_staysUpToDate hw h
  closed _ _ hview _ := shut_staysUpToDate hview

/-! ## Filter chains -/

/-- A view that is told that a chain has changed is up to date in the end. -/
theorem follow_upToDate (hR : CallsWithin R (StaysUpToDate v)) {c : ChainRef}
    (h : w.follow R (.chain c) v = some w') : Unbroken v w (UpToDate v RepaintWaits) w' := by
  have hends := View.mutate_upToDate (v := v) (w := w) (announceView_upToDate hR)
    (m := .filterChainChanged) (.inl rfl)
  have hnoted (e : Failure) (u : World) :
      Keeps v (UpToDate v RepaintWaits) u (u.record (.uncaught e)) :=
    keeps_record u (fun _ h => h) fun _ _ _ h => h
  refine follow_ends (P := Unbroken v w (UpToDate v RepaintWaits)) ?_ h
  exact hends.mono (fun _ _ h => h) fun e u h => (h.trans (hnoted e u)).mono fun h => h.2 h.1

/-- No open view that is connected to its chains follows the chain. -/
def Ignored (v : ViewRef) (c : ChainRef) (w : World) : Prop :=
  ∀ view, w.views[v]? = some view → view.closed = false → view.Connected v w → c ∉ view.chains

/-- When a chain announces a change, the announcement makes a view that follows it up to date. Any
other view stays so if it is so when the announcement is noted. -/
theorem announceChain_upToDate (hR : CallsWithin R (StaysUpToDate v)) {c : ChainRef}
    (h : announceShared R (.chain c) w = some w') : Unbroken v w
      (fun w' => (Ignored v c w → UpToDate v RepaintWaits (w.record (.signalled (.chain c)))) →
        UpToDate v RepaintWaits w') w' := by
  have hnoted : Unbroken v w (fun _ => True) (w.record (.signalled (.chain c))) :=
    .of_holds rfl trivial
  by_cases hmine : ∃ view, w.views[v]? = some view ∧ view.closed = false ∧ view.Connected v w ∧
    c ∈ view.chains
  · obtain ⟨view, hview, -, hconnected, hc⟩ := hmine
    obtain ⟨d, hd, hsignal, hslot⟩ := hconnected c hc
    obtain ⟨u, u', hbefore, hwithin, hafter, htold⟩ :=
      concerns_staysUpToDate.reached hR hview hd hsignal hslot h
    have htold : Unbroken v u (UpToDate v RepaintWaits) u' := by
      rcases htold with hfollow | hclosed
      · exact follow_upToDate hR hfollow
      · exact hwithin.2.mono fun h => h (upToDate_of_closed hclosed)
    have hreached := (hnoted.after hbefore.2).after htold
    exact (hreached.trans hafter.2).mono fun h _ => h.2 h.1
  · refine (hnoted.after (concerns_staysUpToDate.delivered hR h).2).mono fun h hkept => h (hkept ?_)
    exact fun view hview hopen hconnected hc => hmine ⟨view, hview, hopen, hconnected, hc⟩

/-- When the filters of a chain are replaced and it announces it, views stay up to date: those that
follow the chain are told, and the others do not depend on it. -/
theorem rechained_staysUpToDate (hR : CallsWithin R (StaysUpToDate v)) {c : ChainRef}
    {chains : List (List FilterRef)} (hchains : ∀ d, d ≠ c → chains[d]? = w.chains[d]?)
    (h : announceShared R (.chain c) { w with chains } = some w') : StaysUpToDate v w w' := by
  refine ⟨fun hw => (concerns_staysUpToDate.delivered hR h).1 hw, ?_⟩
  have hsame : ({ w with chains } : World).trace = w.trace := rfl
  have htrace : (World.record { w with chains } (.signalled (.chain c))).trace =
      w.trace ++ [.signalled (.chain c)] := rfl
  have hannounced := (announceChain_upToDate hR h).start hsame
  refine hannounced.mono fun h hw => h fun hothers => ?_
  refine hw.mono htrace (.of_eq rfl) (.of_eq rfl) (by simp [Unedited])
    (fun hm => ?_) rfl rfl (fun _ _ => .rfl) fun view hview hopen hconnected d hd => ?_
  · exact (missed_concat v w.trace _).trans hm
  · have hdc : d ≠ c := by
      rintro rfl
      exact hothers view hview hopen hconnected hd
    refine ⟨hchains d hdc, filtersOf_congr (hchains d hdc) fun _ _ => rfl, fun f _ howed => ?_⟩
    refine (owed_concat d f w.trace _).trans ?_
    simp [owe, howed, Ne.symm hdc]

/-- A filter that is changed is not announced by its chains. -/
theorem ruled_staysUpToDate (f : FilterRef) (filter : Filter) :
    StaysUpToDate v w ({ w with filters := w.filters.set f filter }.record (.ruled f)) := by
  refine ⟨id, .of_holds rfl fun hw => ?_⟩
  by_cases hmine : ∃ view, w.views[v]? = some view ∧ ∃ c ∈ view.chains,
    f ∈ (w.chains[c]?).getD []
  · obtain ⟨view, hview, c, hc, hf⟩ := hmine
    intro _ x hx _ _ _
    cases hview.symm.trans hx
    refine .inr (.inr (.inl ⟨c, hc, f, hf, (owed_concat c f w.trace _).trans ?_⟩))
    simp [owe]
  · have htrace : (World.record { w with filters := w.filters.set f filter } (.ruled f)).trace =
        w.trace ++ [.ruled f] := rfl
    refine hw.mono htrace (.of_eq rfl) (.of_eq rfl) (by simp [Unedited])
      (fun hm => (missed_concat v w.trace _).trans hm) rfl rfl (fun _ _ => .rfl)
      fun view hview _ _ c hc => ⟨rfl, ?_, fun g _ howed => ?_⟩
    · have hother : ∀ g ∈ (w.chains[c]?).getD [], g ≠ f := by
        rintro g hg rfl
        exact hmine ⟨view, hview, c, hc, hg⟩
      exact filtersOf_congr rfl fun g hg => List.getElem?_set_ne (hother g hg).symm
    · refine (owed_concat c g w.trace _).trans ?_
      simp [owe, howed]

theorem shares_staysUpToDate : Shares (StaysUpToDate v) where
  regrouped R hR g w w₁ w' hregroups hw' := by
    have htrace : w₁.trace = w.trace ++ [] := by rw [hregroups.trace, List.append_nil]
    have hfirst : StaysUpToDate v w w₁ := by
      refine ⟨fun hw view hview hopen => ?_, .of_holds htrace fun hw => ?_⟩
      · refine (hw view (hregroups.views ▸ hview) hopen).mono rfl fun d hd _ => ?_
        rwa [hregroups.connections]
      · refine hw.mono htrace hregroups.snapshots hregroups.blocks (by simp [Unedited])
          (fun hm => hregroups.trace ▸ hm) hregroups.size (by rw [hregroups.views])
          (fun _ _ => by rw [hregroups.connections])
          fun view _ _ _ c _ => ⟨by rw [hregroups.chains], ?_, fun _ _ h => hregroups.trace ▸ h⟩
        exact filtersOf_congr (by rw [hregroups.chains]) (by simp [hregroups.filters])
    exact chains_staysUpToDate.trans hfirst (concerns_staysUpToDate.announceGroup hR hw')
  rechained R hR c filters w w' hw' := by
    refine rechained_staysUpToDate hR (fun d hd => ?_) hw'
    exact List.getElem?_set_ne (Ne.symm hd)
  notified R hR c w w' hw' := rechained_staysUpToDate hR (fun _ _ => rfl) hw'
  ruled w f filter := ruled_staysUpToDate f filter

/-- A run keeps a view up to date, unless a change of it fails or a snapshot is edited. -/
theorem Reaches.staysUpToDate (h : Reaches w w') : StaysUpToDate v w w' :=
  concerns_staysUpToDate.reaches shares_staysUpToDate h

theorem Reachable.upToDate (hw : w.Reachable) (hflawless : failures v w.trace = [])
    (hes : Unedited w.trace) : AttachedToChains v w ∧ UpToDate v RepaintWaits w := by
  obtain ⟨w₀, commands, hinitial, hrun⟩ := hw
  obtain ⟨hattached, es, htrace, hkept⟩ := (reaches_run hrun).staysUpToDate (v := v)
  rw [hinitial.trace, List.nil_append] at htrace
  subst htrace
  have hnone (x : View) : w₀.views[v]? ≠ some x := by simp [hinitial.views]
  exact ⟨hattached fun x hx => absurd hx (hnone x),
    hkept hflawless hes (upToDate_of_closed fun x hx => absurd hx (hnone x))⟩

/-- In every state of a session, the diagram of an open view is the one of the graph that is
selected, and drawing this graph anew with the filters that the two chains hold now comes to the
same figures. This is so if no change of the view has failed, snapshots were not edited or
unblocked, filters that were changed were announced by their chains, and the view has not dropped a
change of a chain, as it does while its group is empty, since the diagram was drawn. -/
theorem Reachable.fresh_unless_missed (hw : w.Reachable) {group : Group}
    (hview : w.views[v]? = some view) (hopen : view.closed = false)
    (hgroup : w.groups[view.group]? = some group) (hflawless : failures v w.trace = [])
    (hes : Unedited w.trace) (hstay : BlocksStay w.trace) (hannounced : ¬ view.Overdue w)
    (hmissed : missed v w.trace = false) :
    ∃ s d, view.selection = some s ∧ view.diagram = some d ∧ d.graph = s.graph ∧
      view.builder.Redraws w d := by
  obtain ⟨hidle, -⟩ := hw.idle hview
  obtain ⟨⟨s, hs, -⟩, -⟩ := hw.coherent hview (by simp [Whole, hflawless])
  obtain ⟨hattached, huptodate⟩ := hw.upToDate (v := v) hflawless hes
  have hthere : view.group < w.groups.length := (List.getElem?_eq_some_iff.1 hgroup).1
  rcases huptodate hstay view hview hopen hthere (hattached view hview hopen) with
    hpainted | hm | hoverdue | hwaits
  · obtain ⟨d, hd, hgraph, hpainted⟩ := hpainted s hs
    exact ⟨s, d, hs, hd, hgraph, (hgraph ▸ hpainted).redraws⟩
  · cases hm.symm.trans hmissed
  · exact absurd hoverdue hannounced
  · cases hwaits.1.symm.trans hidle

/-- A snapshot with one node, and a filter that no chain refers to yet. -/
def paintable : World :=
  let s : Snapshot :=
    { id := 0, name := "a", nodes := ⟨[(1, .empty)], by decide⟩
      blocks := ⟨[("b", { nodes := [1] })], by decide⟩, group := some 0 }
  { snapshots := [s], pool := [0], groups := [⟨"g", [0]⟩], chains := [[], []]
    filters := [.other "Paint" "p" fun fs => .ok (fs.map fun f => { f with color := "blue" })] }

theorem initial_paintable : Initial paintable where
  sound := ⟨by decide, by decide, by simp [paintable]⟩
  views := rfl
  trace := rfl

/-- The snapshot is shown. -/
def unpainted : World := (paintable.run [.openView 0 0 1 none false (.bool false)]).getD {}

theorem reachable_unpainted : unpainted.Reachable :=
  initial_paintable.reachable (by decide +kernel)

/-- When the filter is added, the view draws its graph anew. -/
theorem unpainted_addFilter :
    ((Act.addFilter (fun _ w => some w) 0 0).runIn unpainted).any
      (fun p => failures 0 p.2.trace = [] ∧ Unedited p.2.trace ∧ BlocksStay p.2.trace ∧
        missed 0 p.2.trace = false ∧ p.2.groups.map (·.members) = [[0]] ∧
        ∃ view ∈ p.2.views[0]?, view.closed = false ∧ view.group = 0 ∧ ¬ view.Overdue p.2 ∧
          view.figures.map (·.color) = ["blue"]) = true := by
  unfold Act.addFilter Act.changeChain Act.announce announceShared follow View.mutate runChange
  simp only [drain_eq_drainFirst _ _ 3]
  decide +kernel

/-- When the filter is added to the chain of the open view, the view shows what is drawn with it. -/
theorem fresh_unless_missed_unpainted : ∃ (w : World) (view : View) (s : Selection) (d : Diagram),
    w.Reachable ∧ w.views[0]? = some view ∧ missed 0 w.trace = false ∧
    view.figures.map (·.color) = ["blue"] ∧ view.selection = some s ∧ view.diagram = some d ∧
    d.graph = s.graph ∧ view.builder.Redraws w d := by
  obtain ⟨⟨r, w⟩, hrun, hseen⟩ := Option.any_eq_true _ _ |>.1 unpainted_addFilter
  obtain ⟨hflawless, hes, hstay, hmissed, hmembers, view, hview, hopen, hgroup, hannounced,
    hcolors⟩ := of_decide_eq_true hseen
  have hreached : w.Reachable := by
    refine reachable_unpainted.execute (c := .addFilter 0 0) (r := r.map fun _ => .done)
      (by decide +kernel) ?_
    rw [Command.execute, Act.runIn_bind, hrun]
    cases r <;> rfl
  obtain ⟨group, hgroup', -⟩ := group_of_members (g := view.group) hmembers (by rw [hgroup]; rfl)
  obtain ⟨s, d, hs, hd, hgraph, hredraws⟩ :=
    hreached.fresh_unless_missed hview hopen hgroup' hflawless hes hstay hannounced hmissed
  exact ⟨w, view, s, d, hreached, hview, hmissed, hcolors, hs, hd, hgraph, hredraws⟩

/-- The filter is added while the group is empty. -/
def unpaintedEmpty : World :=
  (paintable.run
    [.openView 0 0 1 none false (.bool false), .clearGroup 0, .addFilter 0 0]).getD {}

theorem reachable_unpaintedEmpty : unpaintedEmpty.Reachable :=
  initial_paintable.reachable (by decide +kernel)

/-- When the group is filled again, the view still shows the diagram without the filter. -/
theorem unpaintedEmpty_addMember :
    ((Act.addMember (fun _ w => some w) 0 0).runIn unpaintedEmpty).any
      (fun p => Flawless p.2.trace ∧ Unedited p.2.trace ∧ BlocksStay p.2.trace ∧
        p.2.groups.map (·.members) = [[0]] ∧
        ∃ view ∈ p.2.views[0]?, view.closed = false ∧ view.group = 0 ∧ ¬ view.Overdue p.2 ∧
          view.figures.map (·.color) = ["default"] ∧
          ∃ d ∈ view.diagram, ((view.builder.rebuild d.graph).runIn p.2).any (fun q =>
            match q.1 with
            | .ok d' => d'.figures.map (·.color) = ["blue"]
            | .error _ => False) = true) = true := by
  unfold Act.addMember Act.announce announceShared follow View.mutate runChange
  simp only [drain_eq_drainFirst _ _ 3]
  decide +kernel

/-- Without a regard to what was dropped, diagrams are not up to date: nothing has failed, the chain
has announced its change, and the view is open and its group is filled again, but drawing the graph
anew comes to other figures. -/
theorem stale_after_drop : ¬ ∀ (w w' : World) (v : ViewRef) (view : View) (group : Group)
    (d d' : Diagram), w.Reachable → w.views[v]? = some view → view.closed = false →
    view.busy = false → w.groups[view.group]? = some group → group.members ≠ [] →
    Flawless w.trace → Unedited w.trace → BlocksStay w.trace → ¬ view.Overdue w →
    view.diagram = some d → (view.builder.rebuild d.graph).runIn w = some (.ok d', w') →
    d'.figures = d.figures := by
  intro hall
  obtain ⟨⟨r, w⟩, hrun, hseen⟩ := Option.any_eq_true _ _ |>.1 unpaintedEmpty_addMember
  obtain ⟨hflawless, hes, hstay, hmembers, view, hview, hopen, hgroup, hannounced, hcolors, d, hd,
    hseen⟩ := of_decide_eq_true hseen
  obtain ⟨⟨q, w'⟩, hrebuild, hblue⟩ := Option.any_eq_true _ _ |>.1 hseen
  have hreached : w.Reachable := by
    refine reachable_unpaintedEmpty.execute (c := .addMember 0 0) (r := r.map fun _ => .done)
      (by decide +kernel) ?_
    have hplace : unpaintedEmpty.pool[0]? = some 0 := by decide +kernel
    rw [Command.execute, Act.runIn_bind_ok (Command.runIn_pooled hplace), Act.runIn_bind, hrun]
    cases r <;> rfl
  obtain ⟨hidle, -⟩ := hreached.idle hview
  obtain ⟨group, hgroup', hgroupMembers⟩ :=
    group_of_members (g := view.group) hmembers (by rw [hgroup]; rfl)
  cases q with
  | error e => cases of_decide_eq_true hblue
  | ok d' =>
    have hsame : d'.figures = d.figures := hall w w' 0 view group d d' hreached hview hopen hidle
      hgroup' (by simp [hgroupMembers]) hflawless hes hstay hannounced hd hrebuild
    have hfigures : view.figures = d.figures := by
      rw [View.figures, Option.mem_def.1 hd]
      rfl
    have hblue : d'.figures.map (·.color) = ["blue"] := of_decide_eq_true hblue
    rw [hsame, ← hfigures, hcolors] at hblue
    exact absurd hblue (by decide)

end World

end SnapshotViewer
