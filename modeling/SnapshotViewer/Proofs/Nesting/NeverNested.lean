import SnapshotViewer.Proofs.Action.Termination
import SnapshotViewer.Proofs.Nesting.UnnestedGroups

/-!
# Differences never nest

What a view shows can be kept and become an entry of its group, where it serves as an end of later
windows. As long as nothing else than captured snapshots and current graphs of views becomes an
entry of a group (`Command.Scope.feeding`), the group remains unnested, whatever is done with views,
groups and filter chains, and whatever listeners do meanwhile. Main statement:
`World.ReachesIn.never_nests`.
-/

namespace SnapshotViewer

/-- Commands do not edit snapshots, and open views with schedulers that do not fail as if
differences nested. What they make an entry of the group is a captured snapshot, or the current
graph of a view. -/
def Command.Scope.feeding (g : GroupRef) : Scope where
  edits := False
  joins w g' s := g' = g → w.Captured [s] ∨ ∃ view ∈ w.views, view.graph? = some s
  opens scheduler := ∀ s, scheduler = some s → s.Tame

namespace View

open World

variable {g : GroupRef} {a : Announce} {v : ViewRef} {w w' : World} {view : View}

/-! ## Opening and closing views -/

/-- A view that shows nothing yet is added. -/
theorem stays_withUnopened (w : World) (group : GroupRef) {builder : Builder}
    (hbuilder : ∀ s, builder.scheduler = some s → s.Tame) (counted : Bool) (hide : Value) :
    Stays g w (withUnopened w group builder counted hide) := by
  refine fun hw => ⟨⟨.of_eq rfl, fun u view hview => ⟨view, ?_, rfl⟩⟩, hw.stores (.of_eq rfl)
    hw.members (fun f hf => .inl hf) fun view hview => ?_, [], (List.append_nil _).symm, by simp⟩
  · exact (List.getElem?_append_left (List.getElem?_eq_some_iff.1 hview).1).trans hview
  · rcases List.mem_append.1 hview with hview | hview
    · exact ⟨hw.graphs view hview, hw.selections view hview, hw.schedulers view hview⟩
    · cases List.mem_singleton.1 hview
      exact ⟨fun _ r hr => absurd hr List.not_mem_nil, nofun, hbuilder⟩

/-- An event of no view is fair whichever views there are. -/
theorem fair_of_isNote {e : Event} (he : e.IsNote) (h : e.Fair g w)
    (hsnapshots : w'.snapshots = w.snapshots) : e.Fair g w' := by
  cases e with
  | compared first second counted => exact Captured.stores h (.of_eq hsnapshots)
  | logged | filtered | scheduled => exact trivial
  | _ => exact he.elim

/-- A view that fails to open is taken back. -/
theorem stays_take {w w₁ : World} {n : Nat} (hn : w.views.length ≤ n)
    (h : Stays g w w₁) (hnoting : Noting w w₁) :
    Stays g w { w₁ with views := w₁.views.take n } := by
  intro hw
  obtain ⟨es, htrace, hes⟩ := hnoting
  obtain ⟨hkept, hw₁, es', htrace', hfair⟩ := h hw
  cases List.append_cancel_left (htrace.symm.trans htrace')
  refine ⟨⟨hkept.stores, fun u view hview => ?_⟩, hw₁.stores (.of_eq rfl) hw₁.members
    (fun f hf => .inl hf) fun view hview => ?_, es, htrace, fun e he => ?_⟩
  · obtain ⟨view', hview', hgroup⟩ := hkept.views u view hview
    have hlt := Nat.lt_of_lt_of_le (List.getElem?_eq_some_iff.1 hview).1 hn
    exact ⟨view', (List.getElem?_take_of_lt hlt).trans hview', hgroup⟩
  · have hmem := List.mem_of_mem_take hview
    exact ⟨hw₁.graphs view hmem, hw₁.selections view hmem, hw₁.schedulers view hmem⟩
  · exact fair_of_isNote (hes e he) (hfair e he) rfl

/-- What a view announces before it is open, nobody hears. -/
theorem silent_stays (v : ViewRef) (n : Notice) (w w' : World)
    (h : (fun _ _ w => some w : Announce) v n w = some w') : Stays g w w' := by
  cases h
  exact chains_stays.refl w

theorem welcomes_stays {scheduler : Option Scheduler}
    (hscheduler : ∀ s, scheduler = some s → s.Tame) : Welcomes scheduler (Stays g) where
  chains := chains_stays
  shown w group builder counted hide s hbuilder := by
    have hadded : Stays g w (withUnopened w group builder counted hide) :=
      stays_withUnopened w group (hbuilder ▸ hscheduler) counted hide
    have hfirst : (showFirst w.views.length s).Leads (Stays g) (Balks g w.views.length) :=
      (performs_stays (silent_stays w.views.length)).showFirst s
    refine Act.ends_onFailure.2 (((hfirst _).and (steps_showFirst s _)).mono (fun _ w₁ h => ?_)
      fun e w₁ h => ?_)
    · refine chains_stays.trans (chains_stays.trans hadded h.1) (stays_display _ fun view => ?_)
      exact ⟨rfl, rfl, rfl, rfl⟩
    · have hnoting : Noting w w₁ := chains_noting.trans (noting_of_same rfl) h.2.noting
      have hfailed : Stays g w w₁ := chains_stays.trans hadded h.1.1
      exact chains_stays.trans (stays_take (Nat.le_refl _) hfailed hnoting)
        (stays_record _ fun _ => trivial)
  enrolled v view w := by
    have hopened : Stays g w (w.record (.opened v (w.reading view))) :=
      stays_record w fun _ => trivial
    exact chains_stays.trans hopened (stays_of_same rfl rfl rfl rfl rfl)

/-- A view of the group is built, or is not for other reasons than that differences would nest. -/
theorem build_tame (hw : w.Unnested g) {s : SnapshotRef} {snapshot : Snapshot}
    (hs : w.snapshots[s]? = some snapshot) (hgroup : snapshot.group = some g) {builder : Builder}
    (hbuilder : ∀ s, builder.scheduler = some s → s.Tame) (counted : Bool) (hide : Value) :
    (build s builder counted hide).Ends w (fun _ _ => True) fun e _ => e.nests = false := by
  have hadded : Stays g w (withUnopened w g builder counted hide) :=
    stays_withUnopened w g hbuilder counted hide
  have hshown : (showFirst w.views.length s).Leads (Stays g) (Balks g w.views.length) :=
    (performs_stays (silent_stays w.views.length)).showFirst s
  refine ends_build rfl (fun _ _ _ => rfl) fun snapshot' group hs' hgroup' => ?_
  cases hs.symm.trans hs'
  cases hgroup.symm.trans hgroup'
  refine (hshown _).mono (fun _ _ _ => trivial) fun e w₁ h => ?_
  -- the view was there when it failed
  have hnew := List.getElem?_concat_length (l := w.views)
    (a := unopened w.settings g builder counted hide)
  have hw₀ := (hadded hw).2.1
  obtain ⟨view, hview, hsame⟩ := (h.1 hw₀).1.views _ _ hnew
  exact h.2 hw₀ view hview hsame

/-- A view of the group opens, or does not for other reasons than that differences would nest. -/
theorem openOn_tame (hw : w.Unnested g) {s : SnapshotRef} {snapshot : Snapshot}
    (hs : w.snapshots[s]? = some snapshot) (hgroup : snapshot.group = some g)
    {scheduler : Option Scheduler} (hscheduler : ∀ s, scheduler = some s → s.Tame) (c q : ChainRef)
    (counted : Bool) (hide : Value) : (openOn s c q scheduler counted hide).Ends w
      (fun _ _ => True) fun e _ => e.nests = false := by
  unfold openOn
  rw [Act.ends_bind, Act.ends_get]
  refine (build_tame hw hs hgroup (by exact hscheduler) counted _).bind fun v w' _ => ?_
  rw [Act.ends_bind]
  refine Act.ends_view (fun view _ => ?_) fun _ => rfl
  rw [Act.ends_bind, Act.ends_modify]
  exact Act.ends_pure.2 trivial

theorem close_stays (ha : ∀ n w w', a v n w = some w' → Stays g w w') :
    (close a v).Within (Stays g) := by
  unfold close
  refine (Act.within_view chains_stays v).bind chains_stays fun view => ?_
  split
  · refine (Act.within_modify fun w => ?_).bind chains_stays fun _ => ?_
    · have hdisconnected : Stays g w (w.disconnect (.follow v)) :=
        stays_of_same rfl rfl rfl rfl rfl
      refine chains_stays.trans (chains_stays.trans hdisconnected (stays_display v fun view => ?_))
        (stays_record _ fun _ => trivial)
      exact ⟨rfl, rfl, rfl, rfl⟩
    · exact Act.within_yield fun w w' h => ha _ w w' h
  · exact Act.within_pure chains_stays _

end View

namespace World

variable {g : GroupRef} {R : Respond} {w w' : World} {r : SnapshotRef}

/-- The current graph of a view can become an entry. -/
theorem Unnested.flat_of_joins (hw : w.Unnested g)
    (h : w.Captured [r] ∨ ∃ view ∈ w.views, view.graph? = some r) : w.Flat r := by
  obtain hcaptured | ⟨view, hview, hgraph⟩ := h
  · exact .inl hcaptured
  · obtain ⟨s, hs, rfl⟩ := Option.map_eq_some_iff.1 hgraph
    exact (hw.selections view hview s hs).flat

/-- A filter is replaced by one that does not fail as if differences nested. -/
theorem stays_setFilter (w : World) (f : FilterRef) {filter : Filter} (hfilter : filter.Tame) :
    Stays g w { w with filters := w.filters.set f filter } := by
  refine fun hw => ⟨.of_eq rfl rfl, hw.stores (.of_eq rfl) hw.members (fun x hx => ?_)
    fun view hview => ?_, [], (List.append_nil _).symm, by simp⟩
  · rcases List.mem_or_eq_of_mem_set hx with hx | rfl
    · exact .inl hx
    · exact .inr hfilter
  · exact ⟨hw.graphs view hview, hw.selections view hview, hw.schedulers view hview⟩

/-- A group gets other entries. -/
theorem stays_modifyGroup {g' : GroupRef} {f : Group → Group} (hf : w.Unnested g → g' = g →
    ∀ group, w.groups[g]? = some group → ∀ r ∈ (f group).members, w.Flat r) :
    Stays g w (w.modifyGroup g' f) := by
  refine fun hw => ⟨.of_eq rfl rfl, hw.stores (.of_eq rfl) (fun after hafter r hr => ?_)
    (fun x hx => .inl hx) fun view hview => ?_, [], (List.append_nil _).symm, by simp⟩
  · rw [modifyGroup, List.getElem?_modify] at hafter
    obtain ⟨group, hgroup, rfl⟩ := Option.map_eq_some_iff.1 hafter
    split at hr
    · exact hf hw ‹_› group hgroup r hr
    · exact hw.members group hgroup r hr
  · exact ⟨hw.graphs view hview, hw.selections view hview, hw.schedulers view hview⟩

/-! ## Runs -/

section

variable (hR : ∀ k u u', R k u = some u' → Stays g u u')

include hR

theorem announceView_stays (v : ViewRef) (n : Notice) (w w' : World)
    (h : announceView R v n w = some w') : Stays g w w' := by
  refine chains_stays.trans ?_
    (announced_within chains_stays hR (fun u => stays_record u fun _ => trivial) h)
  unfold noteReading
  split
  · rename_i view hview
    refine stays_of_stores rfl (fun hw e he => ?_) (.of_eq rfl) rfl rfl rfl
    cases List.mem_singleton.1 he
    refine ⟨view, hview, fun hgroup => ?_⟩
    obtain ⟨hfirst, hsecond⟩ := hw.plainEnds (List.mem_of_getElem? hview) hgroup
    exact ⟨hfirst.stores (.of_eq rfl), hsecond.stores (.of_eq rfl)⟩
  · exact chains_stays.refl w

theorem mutate_stays (v : ViewRef) (m : Mutation) :
    (View.mutate (announceView R) v m).Within (Stays g) :=
  fun w => (View.mutate_leads (announceView_stays hR v) m w).mono (fun _ _ h => h) fun _ _ h => h.1

theorem announceShared_stays {signal : Signal} (h : announceShared R signal w = some w') :
    Stays g w w' := by
  refine emit_within chains_stays (fun slot u u' hu => ?_)
    (fun u => stays_record u fun _ => trivial) h
  cases slot with
  | listener k => exact hR k u u' hu
  | follow v =>
    exact follow_ends ((mutate_stays hR v _ u).mono (fun _ _ h => h) fun _ x h =>
      chains_stays.trans h (stays_record x fun _ => trivial)) hu

/-- Every effect of a command leaves the group unnested. -/
theorem effect_stays (h : Command.EffectIn (.feeding g) R w w') : Stays g w w' := by
  cases h with
  | nothing => exact chains_stays.refl w
  | keep => exact stays_of_same rfl rfl rfl rfl rfl
  | compare =>
    exact stays_of_stores (List.append_nil _).symm (by simp) (.archive rfl) rfl rfl rfl
  | edit _ _ _ hp => exact hp.elim
  | clearBlocks r =>
    refine chains_stays.trans ?_ (stays_record _ fun _ => trivial)
    exact stays_of_stores (List.append_nil _).symm (by simp) (.modify rfl fun s => rfl) rfl rfl rfl
  | addRule f name rules =>
    have htame : (Filter.color name rules).Tame := fun _ _ h => nomatch h
    exact chains_stays.trans (stays_setFilter w f htame)
      (stays_record _ fun _ => trivial)
  | listen => exact stays_of_same rfl rfl rfl rfl rfl
  | unlisten => exact stays_of_same rfl rfl rfl rfl rfl
  | change h => exact (mutate_stays hR _ _).of_runIn h
  | openView h hp => exact ((View.welcomes_stays hp).openOn _ _ _ _ _).of_runIn h
  | closeView h => exact (View.close_stays (announceView_stays hR _)).of_runIn h
  | @join _ g' s hs h hp =>
    have hgrouped : Stores w (w.modifySnapshot s fun snapshot =>
        { snapshot with group := some g' }) := .modify rfl fun _ => rfl
    refine chains_stays.trans (chains_stays.trans ?_ (stays_modifyGroup
      fun hw hg group hgroup r hr => ?_)) (announceShared_stays hR h)
    · exact stays_of_stores (List.append_nil _).symm (by simp) hgrouped rfl rfl rfl
    · rcases List.mem_append.1 hr with hr | hr
      · exact hw.members group hgroup r hr
      · rw [List.mem_singleton.1 hr]
        exact hw.flat_of_joins ((hp hg).imp (·.stores hgrouped) id)
  | leave hf h =>
    refine chains_stays.trans (stays_modifyGroup fun hw hg group hgroup r hr => ?_)
      (announceShared_stays hR h)
    exact hw.members group hgroup r (hf _ hr)
  | rechain h =>
    refine chains_stays.trans ?_ (announceShared_stays hR h)
    exact stays_of_same rfl rfl rfl rfl rfl
  | notify h => exact announceShared_stays hR h

end

/-- A run leaves the group unnested. -/
theorem ReachesIn.stays (h : ReachesIn (.feeding g) w w') : Stays g w w' :=
  h.within chains_stays (fun _ _ => stays_of_same rfl rfl rfl rfl rfl)
    (fun w _ _ _ _ => stays_record w fun _ => trivial) fun _ hR _ _ h => effect_stays hR h

end World

namespace View

open World

variable {g : GroupRef} {a : Announce} {v : ViewRef} {w w' : World} {view : View} {r : SnapshotRef}
  {first second : SnapshotRef}

/-! ## Selecting a difference -/

/-- The view shows two snapshots, with the graph that is due for them. -/
def ShowsFair (v : ViewRef) (first second : SnapshotRef) (w : World) : Prop :=
  ∃ view s, w.views[v]? = some view ∧ view.selection = some s ∧ s.first = first ∧
    s.second = second ∧ s.Fair w

/-- A difference among flat snapshots is one of two captured ones. -/
theorem captured_of_flat (h : w.Flat r) {d : Snapshot} (hd : w.snapshots[r]? = some d)
    (horigin : d.origin = .difference (some first) (some second)) :
    w.Captured [first, second] := by
  obtain hcaptured | ⟨d', first', second', hd', horigin', hends⟩ := h
  · obtain ⟨d', hd', hplain⟩ := hcaptured r List.mem_cons_self
    cases hd.symm.trans hd'
    rw [Snapshot.isDifference, horigin] at hplain
    cases hplain
  · cases hd.symm.trans hd'
    cases horigin.symm.trans horigin'
    exact hends

/-- If the window holds nothing but a difference, it resolves to the two snapshots of it. -/
theorem ends_of_difference (hgraphs : ∀ r ∈ view.graphs, w.Flat r) {i : Nat}
    (hi : view.graphs[i]? = some r) (hwindow : view.window = ⟨i, i⟩) {d : Snapshot}
    (hd : w.snapshots[r]? = some d)
    (horigin : d.origin = .difference (some first) (some second)) :
    w.firstGraph view = .ok first ∧ w.secondGraph view = .ok second := by
  have hlt := (List.getElem?_eq_some_iff.1 hi).1
  have hfits : view.window.FitsIn view.graphs.length := by
    rw [hwindow]
    exact ⟨Int.natCast_nonneg i, Int.le_refl _, Int.ofNat_lt.2 hlt⟩
  have hends := captured_of_flat (hgraphs r (List.mem_of_getElem? hi)) hd horigin
  refine ⟨(firstGraph_of_low ?_ hfits w).trans (unwrap_difference hd horigin hends true),
    (secondGraph_of_high ?_ hfits w).trans (unwrap_difference hd horigin hends false)⟩
  · rw [hwindow]
    exact hi
  · rw [hwindow]
    exact hi

/-- A difference that is visible can be selected if diagrams can be built. -/
theorem selectGraph_returns (hw : w.Unnested g) (hview : w.views[v]? = some view)
    (hgroup : view.group = g) (hr : r ∈ view.graphs) {d : Snapshot}
    (hd : w.snapshots[r]? = some d) (horigin : d.origin = .difference (some first) (some second))
    (hbuild : view.builder.CanBuild w) :
    (selectGraph a v r).Ends w (fun _ _ => True) fun _ _ => False := by
  obtain ⟨i, hindex⟩ := Sequence.indexOf?_of_mem hr
  have hi := Sequence.getElem?_of_indexOf? hindex
  unfold selectGraph setWindow
  rw [Act.ends_bind, Act.ends_of_ok (locate_visible hview hindex), Act.ends_bind,
    Act.ends_of_ok (Act.runIn_view hview), Act.ends_bind,
    Window.ofBounds_single (List.getElem?_eq_some_iff.1 hi).1,
    Act.ends_of_ok (Act.runIn_ofExcept_ok _ w), Act.ends_bind, Act.ends_modifyView]
  have hview₁ := views_modifyView_self hview fun view => { view with window := ⟨i, i⟩ }
  have hflat := hw.graphs view (List.mem_of_getElem? hview) hgroup
  obtain ⟨hfirst, hsecond⟩ : w.firstGraph { view with window := ⟨i, i⟩ } = .ok first ∧
      w.secondGraph { view with window := ⟨i, i⟩ } = .ok second :=
    ends_of_difference hflat hi rfl hd horigin
  exact windowMoved_returns hview₁ hfirst hsecond (hbuild.congr rfl rfl)

section

variable (hstays : ∀ n w w', a v n w = some w' → Stays g w w')

include hstays

/-- A change of a view of the group does not fail because differences would nest. -/
theorem perform_tame (hw : w.Unnested g) (hview : w.views[v]? = some view) (hgroup : view.group = g)
    (m : Mutation) : (perform a v m).Ends w (fun _ w' => Stays g w w')
      fun e _ => e.nests = false := by
  refine (perform_leads hstays m w).mono (fun _ _ h => h) fun e w' h => ?_
  obtain ⟨view', hview', hgroup'⟩ := (h.1 hw).1.views v view hview
  exact h.2 hw view' hview' (hgroup'.trans hgroup)

/-- Nor does a call. -/
theorem mutate_tame (hw : w.Unnested g) (hview : w.views[v]? = some view) (hgroup : view.group = g)
    (m : Mutation) : (mutate a v m).Ends w (fun _ w' => Stays g w w')
      fun e _ => e.nests = false := by
  refine (mutate_leads hstays m w).mono (fun _ _ h => h) fun e w' h => ?_
  obtain ⟨view', hview', hgroup'⟩ := (h.1 hw).1.views v view hview
  exact h.2 hw view' hview' (hgroup'.trans hgroup)

variable (ha : ∀ n w w', a v n w = some w' → World.Framed none w w')

include ha

omit hstays in
/-- What is located is visible. -/
theorem locate_found (hview : w.views[v]? = some view) (hbusy : view.busy = true) :
    (locate a v r).Ends w (fun i w' => ∃ view', w'.views[v]? = some view' ∧ view'.busy = true ∧
      view'.graphs[i]? = some r) fun _ _ => True := by
  unfold locate
  rw [Act.ends_bind, Act.ends_of_ok (Act.runIn_view hview)]
  split
  · rename_i i hi
    exact Act.ends_pure.2 ⟨view, hview, hbusy, Sequence.getElem?_of_indexOf? hi⟩
  · refine (turns_showDuplicates ha w view hview hbusy).bind fun _ u ⟨x, hx, hbusy', _⟩ => ?_
    rw [Act.ends_bind, Act.ends_of_ok (Act.runIn_view hx)]
    split
    · rename_i i hi
      exact Act.ends_pure.2 ⟨x, hx, hbusy', Sequence.getElem?_of_indexOf? hi⟩
    · exact (foreign_fails r u).mono (fun _ _ h => h.elim) fun _ _ _ => trivial

/-- A view that selects a difference shows the two snapshots of it. -/
theorem selectGraph_shows (hw : w.Unnested g) (hview : w.views[v]? = some view)
    (hbusy : view.busy = true) (hgroup : view.group = g) {d : Snapshot}
    (hd : w.snapshots[r]? = some d) (horigin : d.origin = .difference (some first) (some second)) :
    (selectGraph a v r).Ends w (fun _ w' => ShowsFair v first second w') fun _ _ => True := by
  have hT := performs_stays hstays
  refine (((hT.locate r w).and (locate_found ha hview hbusy)).mono (fun _ _ h => h)
    fun _ _ _ => trivial).bind fun i u ⟨hlocated, x, hx, hbusy', hi⟩ => ?_
  unfold setWindow
  rw [Act.ends_bind, Act.ends_of_ok (Act.runIn_view hx), Act.ends_bind,
    Window.ofBounds_single (List.getElem?_eq_some_iff.1 hi).1,
    Act.ends_of_ok (Act.runIn_ofExcept_ok _ u), Act.ends_bind, Act.ends_modifyView]
  have hx₁ := views_modifyView_self hx fun view => { view with window := ⟨i, i⟩ }
  have hmoved : Stays g w (u.modifyView v fun view => { view with window := ⟨i, i⟩ }) :=
    chains_stays.trans hlocated (stays_display v fun _ => ⟨rfl, rfl, rfl, rfl⟩)
  refine (((hT.windowMoved _).and (keepsGraphs_windowMoved ha _)).and
    (turns_windowMoved ha _ _ hx₁ hbusy')).mono (fun _ w' h => ?_) fun _ _ _ => trivial
  obtain ⟨⟨hshown, hkept⟩, y, hy, -, -, s, hs, hfirst, hsecond⟩ := h
  obtain ⟨y', hy', -, -, hgraphs, hwindow⟩ := hkept _ hx₁ hbusy'
  cases hy.symm.trans hy'
  -- the window holds the difference alone, and is resolved
  obtain ⟨hretains, hw', -⟩ := chains_stays.trans hmoved hshown hw
  obtain ⟨y', hy', hgroup'⟩ := hretains.views v view hview
  cases hy.symm.trans hy'
  obtain ⟨d', hd', hcontent⟩ := hretains.stores r d hd
  have horigin' : d'.origin = d.origin := congrArg (·.2.2.2) hcontent
  have hmem := List.mem_of_getElem? hy
  obtain ⟨hfirst', hsecond'⟩ := ends_of_difference (hw'.graphs y hmem (hgroup'.trans hgroup))
    (hgraphs ▸ hi) hwindow hd' (horigin'.trans horigin)
  cases hfirst.symm.trans hfirst'
  cases hsecond.symm.trans hsecond'
  exact ⟨y, s, hy, hs, rfl, rfl, hw'.selections y hmem s hs⟩

end

end View

namespace World

/-! ## Runs without nested differences -/

/-- The listeners do nothing but carry out commands that are free to be carried out. -/
def Feeds (g : GroupRef) (R : Respond) : Prop :=
  ∀ k u u', R k u = some u' → ReachesIn (.feeding g) u u'

/-- In a run nothing but captured snapshots was compared and shown, and no view of the group has
failed because differences would nest. None will when it is opened or called, and one that selects
a difference alone shows the graph that is due for the two snapshots of it. -/
structure NeverNests (g : GroupRef) (w w' : World) : Prop where
  events : ∃ es, w'.trace = w.trace ++ es ∧ ∀ e ∈ es, e.Fair g w'
  ends : ∀ view ∈ w'.views, view.group = g →
    w'.PlainEnd (w'.firstGraph view) ∧ w'.PlainEnd (w'.secondGraph view)
  selections : ∀ view ∈ w'.views, ∀ s, view.selection = some s → s.Fair w'
  opens : ∀ s snapshot c q scheduler counted hide, w'.snapshots[s]? = some snapshot →
    snapshot.group = some g → (∀ x, scheduler = some x → x.Tame) →
    (View.openOn s c q scheduler counted hide).Ends w' (fun _ _ => True) fun e _ => e.nests = false
  calls : ∀ R, Feeds g R → ∀ v view m, w'.views[v]? = some view → view.group = g →
    (View.mutate (announceView R) v m).Ends w' (fun _ _ => True) fun e _ => e.nests = false
  shows : ∀ R, Feeds g R → ∀ v view r d first second, w'.views[v]? = some view → view.group = g →
    w'.snapshots[r]? = some d → d.origin = .difference (some first) (some second) →
    (View.perform (announceView R) v (.selectGraph r)).Ends (View.begun v (.selectGraph r) w')
      (fun _ u => View.ShowsFair v first second u) fun e _ => e.nests = false
  returns : ∀ R, Feeds g R → (∀ k u, (R k u).isSome = true) → ∀ v view r d first second,
    w'.views[v]? = some view → view.group = g → r ∈ view.graphs → w'.snapshots[r]? = some d →
    d.origin = .difference (some first) (some second) → view.builder.CanBuild w' →
    ∃ u, (View.perform (announceView R) v (.selectGraph r)).runIn
        (View.begun v (.selectGraph r) w') = some (.ok (), u) ∧ View.ShowsFair v first second u

/-- Without views there are only the entries of the group to look at, and the filters. -/
theorem unnested_of_no_views {g : GroupRef} {w : World} (hviews : w.views = [])
    (hmembers : ∀ group, w.groups[g]? = some group → ∀ r ∈ group.members, w.Flat r)
    (hfilters : ∀ f ∈ w.filters, f.Tame) : w.Unnested g := by
  refine ⟨hmembers, ?_, ?_, ?_, hfilters⟩ <;> simp [hviews]

/-- Differences never nest in a group whose differences are of captured snapshots, as long as
nothing else than captured snapshots and current graphs of views becomes an entry of it. -/
theorem ReachesIn.never_nests {g : GroupRef} {w w' : World} (hw : w.Unnested g)
    (h : ReachesIn (.feeding g) w w') : NeverNests g w w' := by
  obtain ⟨-, hw', hevents⟩ := h.stays hw
  have hstays {R : Respond} (hR : Feeds g R) (v : ViewRef) (n : Notice) (u u' : World)
      (hu : announceView R v n u = some u') : Stays g u u' :=
    announceView_stays (fun k u u' hu => (hR k u u' hu).stays) v n u u' hu
  have hframed {R : Respond} (hR : Feeds g R) (v : ViewRef) (n : Notice) (u u' : World)
      (hu : announceView R v n u = some u') : Framed none u u' :=
    announceView_framed (fun k u u' hu => (hR k u u' hu).reaches.framed) v n u u' hu
  have hbegun (v : ViewRef) (m : Mutation) : (View.begun v m w').Unnested g := by
    have hbusy : Stays g w' (w'.modifyView v fun view => { view with busy := true }) :=
      View.stays_dispatch w' fun _ => rfl
    have hnoted : Stays g _ (View.begun v m w') := stays_record _ fun _ => trivial
    exact (chains_stays.trans hbusy hnoted hw').2.1
  have hshows : ∀ R, Feeds g R → ∀ v view r d first second, w'.views[v]? = some view →
      view.group = g → w'.snapshots[r]? = some d →
      d.origin = .difference (some first) (some second) →
      (View.perform (announceView R) v (.selectGraph r)).Ends (View.begun v (.selectGraph r) w')
        (fun _ u => View.ShowsFair v first second u) fun e _ => e.nests = false := by
    intro R hR v view r d first second hview hgroup hd horigin
    have hview₁ := View.begun_view (m := .selectGraph r) hview
    have hshown := View.selectGraph_shows (hstays hR v) (hframed hR v) (hbegun v (.selectGraph r))
      hview₁ rfl hgroup hd horigin
    have hshown : (View.perform (announceView R) v (.selectGraph r)).Ends
        (View.begun v (.selectGraph r) w') (fun _ u => View.ShowsFair v first second u)
        fun _ _ => True := hshown.bind fun _ _ h => Act.ends_pure.2 h
    exact (hshown.and (View.perform_tame (hstays hR v) (hbegun v _) hview₁ hgroup _)).mono
      (fun _ _ h => h.1) fun _ _ h => h.2
  refine ⟨hevents, fun view => hw'.plainEnds, hw'.selections, ?_, ?_, hshows, ?_⟩
  · intro s snapshot c q scheduler counted hide hs hgroup hscheduler
    exact View.openOn_tame hw' hs hgroup hscheduler c q counted hide
  · intro R hR v view m hview hgroup
    exact (View.mutate_tame (hstays hR v) hw' hview hgroup m).mono (fun _ _ _ => trivial)
      fun _ _ h => h
  · intro R hR hhalts v view r d first second hview hgroup hr hd horigin hbuild
    have hview₁ := View.begun_view (m := .selectGraph r) hview
    have hreturns : (View.perform (announceView R) v (.selectGraph r)).Ends
        (View.begun v (.selectGraph r) w') (fun _ _ => True) fun _ _ => False :=
      (View.selectGraph_returns (hbegun v (.selectGraph r)) hview₁ hgroup hr hd horigin
        (hbuild.congr rfl rfl)).bind fun _ _ _ => Act.ends_pure.2 trivial
    have hends := (hshows R hR v view r d first second hview hgroup hd horigin).and hreturns
    obtain ⟨x, u, hrun, hshown, -⟩ := (View.halts_perform (fun n u =>
      isSome_announceView hhalts v n u) (.selectGraph r)).returns
        (hends.mono (fun _ _ h => h) fun _ _ h => h.2)
    exact ⟨u, hrun, hshown⟩

/-- Two snapshots of a group. -/
def comparable : World :=
  let s : Snapshot := { id := 0, name := "s", blocks := .ofList [("b", {})], group := some 0 }
  { snapshots := [s, s], pool := [0, 1], groups := [⟨"g", [0, 1]⟩], chains := [[], []] }

/-- A view on the first snapshot of `comparable`. -/
def comparableShown : World :=
  (comparable.run [.openView 0 0 1 (some .byComponent) false (.bool false)]).getD {}

theorem reaches_comparableShown : ReachesIn (.feeding 0) comparable comparableShown := by
  refine .command (R := fun _ u => some u)
    (c := .openView 0 0 1 (some .byComponent) false (.bool false)) (r := .ok (.index 0))
    (fun k u u' hu => ?_) (fun s hs x e he => ?_) (by rfl)
  · cases hu
    exact .refl u
  · cases hs
    cases he

/-- The two snapshots are compared, and their difference is kept and becomes an entry. -/
theorem comparableShown_feed :
    ((Command.execute (fun _ u => some u) (.selectDifference 0 1)).runIn comparableShown).any
      (fun p => ((Command.execute (fun _ u => some u) (.keepGraph 0)).runIn p.2).any fun q =>
        q.2.pool[2]? = some 2 ∧ (∃ view ∈ q.2.views, view.graph? = some 2) ∧
        ((Command.execute (fun _ u => some u) (.addMember 0 2)).runIn q.2).any fun p =>
          p.2.groups.map (·.members) = [[0, 1, 2]] ∧
          p.2.snapshots[2]?.map (·.isDifference) = some true) = true := by
  unfold Command.execute Command.change Act.addMember Act.announce announceShared follow
    View.mutate View.runChange
  simp only [View.drain_eq_drainFirst _ _ 3]
  decide +kernel

/-- The difference that a view shows becomes an entry of its group. -/
theorem never_nests_fed : ∃ w', ReachesIn (.feeding 0) comparable w' ∧
    w'.groups.map (·.members) = [[0, 1, 2]] ∧
    w'.snapshots[2]?.map (·.isDifference) = some true ∧ NeverNests 0 comparable w' := by
  obtain ⟨⟨r₁, w₁⟩, h₁, hseen₁⟩ := Option.any_eq_true _ _ |>.1 comparableShown_feed
  obtain ⟨⟨r₂, w₂⟩, h₂, hseen₂⟩ := Option.any_eq_true _ _ |>.1 hseen₁
  obtain ⟨hpool, ⟨view, hview, hgraph⟩, hseen₃⟩ := of_decide_eq_true hseen₂
  obtain ⟨⟨r₃, w₃⟩, h₃, hseen⟩ := Option.any_eq_true _ _ |>.1 hseen₃
  obtain ⟨hmembers, hdifference⟩ := of_decide_eq_true hseen
  have hrun {c : Command} {u u' : World} {r : Except Failure Reply} (hc : c.Allowed (.feeding 0) u)
      (h : (c.execute fun _ u => some u).runIn u = some (r, u')) : ReachesIn (.feeding 0) u u' :=
    .command (fun _ u _ hu => by cases hu; exact .refl u) hc h
  have hcompared : ReachesIn (.feeding 0) comparableShown w₂ :=
    (hrun (c := .selectDifference 0 1) trivial h₁).trans (hrun (c := .keepGraph 0) trivial h₂)
  have hadded : ReachesIn (.feeding 0) w₂ w₃ := hrun (c := .addMember 0 2) (fun s hs _ => by
    cases hpool.symm.trans hs
    exact .inr ⟨view, hview, hgraph⟩) h₃
  have hfed : ReachesIn (.feeding 0) comparable w₃ :=
    reaches_comparableShown.trans (hcompared.trans hadded)
  have hcaptured : comparable.Captured [0, 1] := by
    intro r hr
    rcases List.mem_cons.1 hr with rfl | hr
    · exact ⟨_, rfl, rfl⟩
    · cases List.mem_singleton.1 hr
      exact ⟨_, rfl, rfl⟩
  have hstart : comparable.Unnested 0 := by
    refine unnested_of_no_views rfl (fun group hgroup r hr => .inl fun x hx => ?_)
      (by simp [comparable])
    cases hgroup
    cases List.mem_singleton.1 hx
    exact hcaptured r hr
  exact ⟨w₃, hfed, hmembers, hdifference, hfed.never_nests hstart⟩

end World

end SnapshotViewer
