import SnapshotViewer.Proofs.Queue.ServiceOrder
import SnapshotViewer.Proofs.View.Coherence

/-!
# Changes that fail partway

A change of a coherent view that fails leaves it coherent if the view looks the same as before, and
else tears it: what the window resolves to, the graph and the diagram do not fit together any more.
The only exception is a snapshot that is not found in the group (`Failure.IsForeign`), which can be
noticed after duplicates were shown. The lemmas say of every operation what it leaves when it fails
(`Torn`, `TornOrSame`). Main statement: `coherent_iff_whole`.
-/

namespace SnapshotViewer

/-- A snapshot was not found in the group of a view. -/
def Failure.IsForeign : Failure → Prop
  | .foreignSnapshot .. => True
  | _ => False

namespace World

/-- The graph of a pair of ends that was resolved anew is not the one of another pair. -/
theorem Shows.graph_ne {w w' : World} {s t : Selection} (hs : s.Shows w) (ht : t.Shows w')
    (hfirst : ∃ x, w.snapshots[t.first]? = some x ∧ x.isDifference = false)
    (hnew : t.first ≠ t.second → w.snapshots.length ≤ t.graph)
    (hne : ¬ (s.first = t.first ∧ s.second = t.second)) : s.graph ≠ t.graph := by
  intro heq
  by_cases hsingle : t.first = t.second
  · have hgraph := ht.single hsingle
    by_cases hsame : s.first = s.second
    · have hfound := hs.single hsame
      refine hne ⟨?_, ?_⟩
      · rw [← hfound, heq, hgraph]
      · rw [← hsame, ← hfound, heq, hgraph, hsingle]
    · -- The one graph is a difference and the other one was captured.
      obtain ⟨d, hd, horigin⟩ := hs.pair hsame
      obtain ⟨x, hx, hcaptured⟩ := hfirst
      rw [heq, hgraph, hx] at hd
      cases hd
      simp [Snapshot.isDifference, horigin] at hcaptured
  · have hstored := hs.stored
    rw [heq] at hstored
    exact absurd hstored (Nat.not_lt.2 (hnew hsingle))

/-- The window can be moved towards every position. -/
theorem SoundView.anchorTo {w : World} {view : View} (h : SoundView w view) {i : Nat}
    (hi : i < view.graphs.length) :
    ∃ window, view.window.anchorTo i view.graphs.length = .ok window := by
  have hlow := h.low
  have hordered := h.ordered
  have hhigh := h.high (List.length_pos_iff.1 (Nat.zero_lt_of_lt hi))
  unfold Window.anchorTo Window.ofBounds
  split
  · exact ⟨_, if_pos ⟨hlow, by omega, by omega⟩⟩
  · exact ⟨_, if_pos ⟨by omega, by omega, hhigh⟩⟩

end World

namespace View

open World

/-- What is known of a view in the middle of a change: its diagram is one of its graph. -/
structure Steady (w : World) (v : ViewRef) (view : View) : Prop where
  found : w.views[v]? = some view
  busy : view.busy = true
  group : view.group < w.groups.length
  sound : Sound w
  drawn : Drawn view

/-- The view is torn, or a snapshot was not found. -/
def Torn (v : ViewRef) (e : Failure) (w' : World) : Prop :=
  ∃ view', w'.views[v]? = some view' ∧ (Coherent w' view' → e.IsForeign)

/-- The view is torn, or a snapshot was not found, or the view looks the same as before. -/
def TornOrSame (v : ViewRef) (view : View) (e : Failure) (w' : World) : Prop :=
  ∃ view', w'.views[v]? = some view' ∧
    (Coherent w' view' → e.IsForeign ∨ view'.sight = view.sight)

theorem Torn.orSame {v : ViewRef} {view : View} {e : Failure} {w' : World} (h : Torn v e w') :
    TornOrSame v view e w' := by
  obtain ⟨view', hview', htorn⟩ := h
  exact ⟨view', hview', fun hc => .inl (htorn hc)⟩

variable {a : Announce} {v : ViewRef} {w : World} {view : View} {α β : Type}

/-- A failure before anything was written. -/
theorem Steady.same (h : Steady w v view) (e : Failure) : TornOrSame v view e w :=
  ⟨view, h.found, fun _ => .inr rfl⟩

/-- What is known of a view is known after an operation that has succeeded. -/
theorem Steady.andThen (h : Steady w v view)
    (ha : ∀ n w w', a v n w = some w' → Framed none w w')
    (hs : ∀ n w w', a v n w = some w' → Sound w → Sound w') {act : Act α}
    (hsteps : act.Within (Steps a v)) (hturns : Turns v Redraws act) :
    act.Ends w (fun _ w' => ∃ view', Steady w' v view') fun _ _ => True := by
  refine ((hturns w view h.found h.busy).and (hsteps w)).mono (fun _ w' hx => ?_)
    fun _ _ _ => trivial
  obtain ⟨⟨view', hview', hbusy', hredrawn⟩, hw'⟩ := hx
  obtain ⟨es, hes⟩ := hw'.frame ha
  obtain ⟨u, hu, howners, -⟩ := hes.1.views v view h.found
  cases hview'.symm.trans hu
  refine ⟨view', hview', hbusy', ?_, hw'.sound hs h.sound, hredrawn.drawn h.drawn⟩
  rw [howners.group, hes.1.groups]
  exact h.group

/-! ## Showing the window -/

/-- An announcement does not fail. -/
theorem announce_succeeds (n : Notice) {E : Failure → World → Prop} (w : World) :
    (announce a v n).Ends w (fun _ _ => True) E :=
  Act.ends_yield.2 fun _ _ => trivial

/-- When the ends of a window are resolved, nothing but showing them can fail. -/
theorem windowMoved_of_showEnds {first second : SnapshotRef} {E : Failure → World → Prop}
    (hview : w.views[v]? = some view) (hfirst : w.firstGraph view = .ok first)
    (hsecond : w.secondGraph view = .ok second)
    (h : (showEnds a v first second).Ends w (fun _ _ => True) E) :
    (windowMoved a v).Ends w (fun _ _ => True) E := by
  have hshown : (showWindow a v).Ends w (fun _ _ => True) E :=
    ends_showWindow_of_ok hview hfirst hsecond (fun _ => trivial) fun _ => h
  unfold windowMoved
  refine hshown.bind fun _ u _ => (announce_succeeds _ u).bind fun _ _ _ => ?_
  exact Act.ends_pure.2 trivial

/-- The graph of a pair is a new one, unless one of the two is not stored. -/
theorem currentGraph_new {counted : Bool} {first second : SnapshotRef} (w : World) :
    (Act.currentGraph counted first second).Ends w
      (fun graph _ => first ≠ second → w.snapshots.length ≤ graph)
      fun e _ => e = .noSuchHandle := by
  unfold Act.currentGraph
  split
  · rename_i heq
    exact Act.ends_pure.2 fun hne => absurd heq hne
  · unfold Act.makeDifference
    rw [Act.ends_bind, Act.ends_record, Act.ends_bind]
    refine Act.ends_snapshot (fun s _ => ?_) fun _ => rfl
    rw [Act.ends_bind]
    refine Act.ends_snapshot (fun t _ => ?_) fun _ => rfl
    rw [Act.ends_bind, Act.ends_get, Act.ends_bind, Act.ends_set, Act.ends_pure]
    exact fun _ => Nat.le_refl _

/-- A view whose window resolves to other snapshots than those of its graph is not coherent. -/
theorem not_coherent_of_knows {es : List Event} {w' : World} {first second : SnapshotRef}
    (hkept : SnapshotsKept es w w') (hfirst : w.firstGraph view = .ok first)
    (hsecond : w.secondGraph view = .ok second) (hknows : ¬ view.knows first second = true) :
    ¬ Coherent w' view := by
  rintro ⟨⟨s, hs, hfirst', hsecond'⟩, -⟩
  cases (hkept.firstOf hfirst).symm.trans hfirst'
  cases (hkept.secondOf hsecond).symm.trans hsecond'
  exact hknows ((knows_iff hs _ _).2 ⟨rfl, rfl⟩)

/-- When the ends of a window cannot be shown, an end is not stored, or the selection is a new one
whose graph is another one than before. -/
theorem showEnds_fails {first second : SnapshotRef} (hview : w.views[v]? = some view)
    (hsound : Sound w) (hfirst : w.firstGraph view = .ok first)
    (hknows : ¬ view.knows first second = true) :
    (showEnds a v first second).Ends w (fun _ _ => True) fun e w' =>
      (e = .noSuchHandle ∧ w'.views[v]? = some view ∧ ∃ es, SnapshotsKept es w w') ∨
      ∃ graph, w'.views[v]? = some { view with selection := some ⟨first, second, graph⟩ } ∧
        ∀ s, view.selection = some s → s.graph ≠ graph := by
  obtain ⟨x, hx, hcaptured⟩ := World.firstOf_ok hfirst
  have hstored : first < w.snapshots.length := (List.getElem?_eq_some_iff.1 hx).1
  unfold showEnds
  rw [Act.ends_bind, Act.ends_of_ok (Act.runIn_view hview), Act.ends_bind]
  refine Act.ends_record.2 ?_
  rw [Act.ends_bind]
  refine Act.Ends.mono (((renders_stored.currentGraph _ _ _ _).and (Act.currentGraph_shows ?_)).and
    (currentGraph_new _)) (fun graph w₁ hgraph => ?_) fun e w₁ hgraph => ?_
  · exact hstored
  · obtain ⟨⟨⟨hviews, -⟩, hshows⟩, hnew⟩ := hgraph
    rw [Act.ends_bind, Act.ends_modifyView]
    have hview₁ := World.views_modifyView_self (hviews ▸ hview : w₁.views[v]? = some view)
      fun view => { view with selection := some ⟨first, second, graph⟩ }
    unfold draw
    rw [Act.ends_bind, Act.ends_bind, Act.ends_of_ok (Act.runIn_view hview₁), Act.ends_bind]
    refine (renders_stored.rebuild _ _ _).mono (fun d w₂ _ => ?_) fun e w₂ hfailed => ?_
    · refine Act.ends_modifyView.2 ?_
      refine (announce_succeeds _ _).bind fun _ w₃ _ => announce_succeeds _ w₃
    · refine .inr ⟨graph, hfailed.1 ▸ hview₁, fun s hs => ?_⟩
      refine Shows.graph_ne (t := ⟨first, second, graph⟩) ((hsound.view hview).selection s hs)
        hshows ⟨x, hx, hcaptured⟩ hnew fun hsame => ?_
      exact hknows ((knows_iff hs _ _).2 hsame)
  · obtain ⟨⟨⟨hviews, hkept⟩, -⟩, hmissing⟩ := hgraph
    exact .inl ⟨hmissing, hviews ▸ hview, hkept⟩

theorem torn_showEnds {first second : SnapshotRef} (h : Steady w v view)
    (hfirst : w.firstGraph view = .ok first) (hsecond : w.secondGraph view = .ok second)
    (hknows : ¬ view.knows first second = true) :
    (showEnds a v first second).Ends w (fun _ _ => True) (Torn v) := by
  refine (showEnds_fails h.found h.sound hfirst hknows).mono (fun _ _ h => h) fun e w' hx => ?_
  obtain ⟨-, hview', es, hkept⟩ | ⟨graph, hview', hne⟩ := hx
  · exact ⟨view, hview', fun hcoherent =>
      absurd hcoherent (not_coherent_of_knows hkept hfirst hsecond hknows)⟩
  · -- The selection is the new one, and the diagram is still the one of the old graph.
    refine ⟨_, hview', fun hcoherent => ?_⟩
    obtain ⟨s, d, hs, hd, hgraph⟩ := h.drawn
    obtain ⟨-, s', d', hs', hd', hgraph'⟩ := hcoherent
    cases hs'
    cases hd.symm.trans hd'
    exact absurd (hgraph.symm.trans hgraph') (hne s hs)

/-- The window is shown, or the view is torn. -/
theorem torn_showWindow (h : Steady w v view) :
    (showWindow a v).Ends w (fun _ _ => True) (Torn v) := by
  refine ends_showWindow h.found (fun e he => ⟨view, h.found, fun hcoherent => ?_⟩)
    (fun _ e _ he => ⟨view, h.found, fun hcoherent => ?_⟩) (fun _ _ _ _ _ => trivial)
    fun first second hfirst hsecond hknows => ?_
  · obtain ⟨⟨s, -, hfirst', -⟩, -⟩ := hcoherent
    cases he.symm.trans hfirst'
  · obtain ⟨⟨s, -, -, hsecond'⟩, -⟩ := hcoherent
    cases he.symm.trans hsecond'
  · exact torn_showEnds h hfirst hsecond (Bool.eq_false_iff.1 hknows)

theorem torn_windowMoved (h : Steady w v view) :
    (windowMoved a v).Ends w (fun _ _ => True) (Torn v) := by
  unfold windowMoved
  refine (torn_showWindow h).bind fun replaced w' _ => ?_
  exact (announce_succeeds _ _).bind fun _ _ _ => Act.ends_pure.2 trivial

theorem announceKept_succeeds (replaced : Bool) {E : Failure → World → Prop} (w : World) :
    (announceKept a v replaced).Ends w (fun _ _ => True) E := by
  unfold announceKept
  split
  · exact Act.ends_pure.2 trivial
  · exact announce_succeeds _ w

/-! ## Selecting -/

/-- Writing fields of the view replaces neither its graph nor its diagram. -/
theorem Steady.write (h : Steady w v view) {f : View → View} (hf : Write w view (f view))
    (hselection : (f view).selection = view.selection)
    (hdiagram : (f view).diagram = view.diagram) :
    Steady (w.modifyView v f) v (f view) where
  found := World.views_modifyView_self h.found f
  busy := hf.sameDispatch.busy.trans h.busy
  group := hf.sameDispatch.group.symm ▸ h.group
  sound := h.sound.modifyView v fun view' hview' => by
    cases h.found.symm.trans hview'
    exact (h.sound.view h.found).write h.sound hf
  drawn := h.drawn.of_same hselection hdiagram

theorem Steady.members (h : Steady w v view) : ∃ group, w.groups[view.group]? = some group :=
  ⟨_, List.getElem?_eq_getElem h.group⟩

/-- The window moves to where it fits. -/
theorem torn_moveWindow (h : Steady w v view) {window : Window}
    (hfits : window.FitsIn view.graphs.length) : (do
      Act.modifyView v fun view => { view with window }
      windowMoved a v : Act Bool).Ends w (fun _ _ => True) (Torn v) := by
  rw [Act.ends_bind, Act.ends_modifyView]
  exact torn_windowMoved (h.write (f := fun view => { view with window }) (.move window hfits)
    rfl rfl)

theorem torn_setWindow (h : Steady w v view) {low high : Int} (hlow : 0 ≤ low)
    (hordered : low ≤ high) (hhigh : high < view.graphs.length) :
    (setWindow a v low high).Ends w (fun _ _ => True) (Torn v) := by
  unfold setWindow
  rw [Act.ends_bind, Act.ends_of_ok (Act.runIn_view h.found), Window.ofBounds,
    if_pos ⟨hlow, hordered, hhigh⟩, Act.ends_bind, Act.ends_of_ok (Act.runIn_ofExcept_ok _ w)]
  exact torn_moveWindow h ⟨hlow, hordered, hhigh⟩

theorem tornOrSame_setWindow (h : Steady w v view) (low high : Int) :
    (setWindow a v low high).Ends w (fun _ _ => True) (TornOrSame v view) := by
  by_cases hfits : 0 ≤ low ∧ low ≤ high ∧ high < view.graphs.length
  · exact (torn_setWindow h hfits.1 hfits.2.1 hfits.2.2).mono (fun _ _ h => h)
      fun _ _ h => h.orSame
  · unfold setWindow
    rw [Act.ends_bind, Act.ends_of_ok (Act.runIn_view h.found), Window.ofBounds, if_neg hfits,
      Act.ends_of_error (Act.runIn_bind_error (Act.runIn_ofExcept_error _ w))]
    exact h.same _

theorem torn_foreign (h : Steady w v view) (s : SnapshotRef) :
    (foreign v s : Act α).Ends w (fun _ _ => True) (Torn v) := by
  obtain ⟨group, hgroup⟩ := h.members
  unfold foreign
  rw [Act.ends_bind, Act.ends_of_ok (Act.runIn_view h.found), Act.ends_bind,
    Act.ends_of_ok (Act.runIn_group hgroup), Act.ends_bind, Act.ends_get, Act.ends_throw]
  exact ⟨view, h.found, fun _ => trivial⟩

/-- A visible snapshot is selected. -/
theorem torn_setWindow_at (h : Steady w v view) {i : Nat} (hi : i < view.graphs.length) :
    (setWindow a v i i).Ends w (fun _ _ => True) (Torn v) :=
  torn_setWindow h (by omega) (by omega) (by omega)

theorem lt_of_indexOf? {s : SnapshotRef} {i : Nat}
    (h : Sequence.indexOf? view.graphs s = some i) : i < view.graphs.length :=
  (List.getElem?_eq_some_iff.1 (Sequence.getElem?_of_indexOf? h)).1

theorem torn_selectVisible (h : Steady w v view) (s : SnapshotRef) :
    (selectVisible a v s).Ends w (fun _ _ => True) (Torn v) := by
  unfold selectVisible
  rw [Act.ends_bind, Act.ends_of_ok (Act.runIn_view h.found)]
  split
  · rename_i i hi
    exact torn_setWindow_at h (lt_of_indexOf? hi)
  · exact torn_foreign h s

/-- Looking for what to select changes nothing. When duplicates are to be hidden, it is not among
them. -/
theorem targetOf_ends {group : Group} (hview : w.views[v]? = some view)
    (hgroup : w.groups[view.group]? = some group) (hide : Bool) :
    (targetOf v hide).Ends w (fun target w' => w' = w ∧
      (hide = true → target ∈ Sequence.visible w.isDuplicate true group.members))
      fun _ w' => w' = w := by
  unfold targetOf
  refine Act.Ends.bind (Q := fun _ w' => w' = w) ?_ fun anchor w' hw => ?_
  · unfold anchorOf
    rw [Act.ends_bind, Act.ends_of_ok (Act.runIn_view hview), Act.ends_bind,
      Act.ends_of_ok (Act.runIn_group hgroup), Act.ends_bind, Act.ends_get, Act.ends_bind]
    refine Act.ends_ofExcept (fun first _ => ?_) fun _ _ => rfl
    split
    · exact Act.ends_pure.2 rfl
    · split
      · exact Act.ends_pure.2 rfl
      · exact Act.ends_throw.2 rfl
  · subst hw
    rw [Act.ends_bind, Act.ends_of_ok (Act.runIn_view hview), Act.ends_bind,
      Act.ends_of_ok (Act.runIn_group hgroup), Act.ends_bind, Act.ends_get]
    split
    · exact Act.ends_ofExcept
        (fun _ htarget => ⟨rfl, fun _ => Sequence.mem_visible_of_resolveUnhidden htarget⟩)
        fun _ _ => rfl
    · rename_i hshow
      exact Act.ends_pure.2 ⟨rfl, fun hhide => absurd hhide hshow⟩

/-- Duplicates are shown or hidden. What is to be selected then is given. -/
theorem tornOrSame_toggleDuplicates (h : Steady w v view) {select : SnapshotRef → Act Bool}
    {hide : Bool}
    (hselect : ∀ target w₁ view₁, Steady w₁ v view₁ → (hide = true → target ∈ view₁.graphs) →
      (select target).Ends w₁ (fun _ _ => True) (Torn v)) :
    (toggleDuplicates select a v hide).Ends w (fun _ _ => True) (TornOrSame v view) := by
  obtain ⟨group, hgroup⟩ := h.members
  have hrefilter := runIn_refilterWith h.found hgroup (.bool hide)
  unfold toggleDuplicates
  rw [Act.ends_bind, Act.ends_of_ok (Act.runIn_view h.found)]
  split
  · exact Act.ends_pure.2 trivial
  split
  · exact (Act.ends_of_ok hrefilter).2 trivial
  · refine (targetOf_ends h.found hgroup hide).mono (fun _ _ h => h) (fun e w' hw => ?_) |>.bind
      fun target w' hw => ?_
    · exact hw ▸ h.same e
    obtain ⟨rfl, htarget⟩ := hw
    rw [Act.ends_bind, Act.ends_of_ok hrefilter]
    have hsteady := h.write (f := refiltered w' (.bool hide) group.members) (.refilter _ hgroup)
      rfl rfl
    refine Act.Ends.bind (Q := fun _ _ => True) ?_ fun replaced w₂ _ => announceKept_succeeds _ w₂
    refine (hselect target _ _ hsteady fun hhide => ?_).mono (fun _ _ h => h)
      fun _ _ h => h.orSame
    subst hhide
    exact htarget rfl

theorem tornOrSame_showDuplicates (h : Steady w v view) :
    (showDuplicates a v).Ends w (fun _ _ => True) (TornOrSame v view) := by
  unfold showDuplicates
  rw [Act.ends_bind, Act.ends_of_ok (Act.runIn_view h.found)]
  split
  · exact tornOrSame_toggleDuplicates h fun target w₁ view₁ h₁ _ => torn_selectVisible h₁ target
  · exact Act.ends_pure.2 trivial

/-- A selection after duplicates were hidden finds its target at once. -/
theorem torn_selectGraph_of_visible (h : Steady w v view) {s : SnapshotRef}
    (hs : s ∈ view.graphs) : (selectGraph a v s).Ends w (fun _ _ => True) (Torn v) := by
  unfold selectGraph locate
  rw [Act.ends_bind, Act.ends_bind, Act.ends_of_ok (Act.runIn_view h.found)]
  split
  · rename_i i hi
    exact Act.ends_pure.2 (torn_setWindow_at h (lt_of_indexOf? hi))
  · rename_i hnone
    exact absurd hs (Sequence.indexOf?_eq_none.1 hnone)

theorem tornOrSame_setHideDuplicates (h : Steady w v view) (hide : Bool) :
    (setHideDuplicates a v hide).Ends w (fun _ _ => True) (TornOrSame v view) := by
  unfold setHideDuplicates
  refine tornOrSame_toggleDuplicates h fun target w₁ view₁ h₁ htarget => ?_
  cases hide with
  | false => exact torn_selectVisible h₁ target
  | true => exact torn_selectGraph_of_visible h₁ (htarget rfl)

section

variable (ha : ∀ n w w', a v n w = some w' → Framed none w w')
  (hs : ∀ n w w', a v n w = some w' → Sound w → Sound w')

include ha hs

theorem locate_ends (h : Steady w v view) (s : SnapshotRef) :
    (locate a v s).Ends w
      (fun i w' => ∃ view', Steady w' v view' ∧ i < view'.graphs.length)
      (TornOrSame v view) := by
  unfold locate
  rw [Act.ends_bind, Act.ends_of_ok (Act.runIn_view h.found)]
  split
  · rename_i i hi
    exact Act.ends_pure.2 ⟨view, h, lt_of_indexOf? hi⟩
  · have hshown := h.andThen ha hs steps_showDuplicates (turns_showDuplicates ha).toRedraws
    refine ((tornOrSame_showDuplicates h).and hshown).mono (fun _ _ hx => hx.2)
      (fun _ _ hx => hx.1) |>.bind fun _ w' hx => ?_
    obtain ⟨view', h'⟩ := hx
    rw [Act.ends_bind, Act.ends_of_ok (Act.runIn_view h'.found)]
    split
    · rename_i i hi
      exact Act.ends_pure.2 ⟨view', h', lt_of_indexOf? hi⟩
    · exact (torn_foreign h' s).and (foreign_fails s w') |>.mono (fun _ _ hx => hx.2.elim)
        fun _ _ hx => hx.1.orSame

theorem tornOrSame_selectGraph (h : Steady w v view) (s : SnapshotRef) :
    (selectGraph a v s).Ends w (fun _ _ => True) (TornOrSame v view) := by
  refine (locate_ends ha hs h s).bind fun i w' hx => ?_
  obtain ⟨view', h', hi⟩ := hx
  exact (torn_setWindow_at h' hi).mono (fun _ _ h => h) fun _ _ h => h.orSame

theorem tornOrSame_selectDifference (h : Steady w v view) (s : SnapshotRef) :
    (selectDifference a v s).Ends w (fun _ _ => True) (TornOrSame v view) := by
  refine (locate_ends ha hs h s).bind fun i w' hx => ?_
  obtain ⟨view', h', hi⟩ := hx
  obtain ⟨window, hwindow⟩ := (h'.sound.view h'.found).anchorTo hi
  rw [Act.ends_bind, Act.ends_of_ok (Act.runIn_view h'.found), Act.ends_bind, hwindow,
    Act.ends_of_ok (Act.runIn_ofExcept_ok _ w')]
  have hmoved := h'.write (f := fun view => { view with window })
    (.move window (Window.fitsIn_of_anchorTo hwindow)) rfl rfl
  rw [Act.ends_bind, Act.ends_modifyView]
  refine Act.Ends.bind (Q := fun _ _ => True) ?_ fun _ _ _ => Act.ends_pure.2 trivial
  exact (torn_windowMoved hmoved).mono (fun _ _ h => h) fun _ _ h => h.orSame

end

/-! ## Following and display -/

theorem Steady.note (h : Steady w v view) (e : Event) : Steady (w.record e) v view :=
  ⟨h.found, h.busy, h.group, h.sound.record e, h.drawn⟩

/-- Computing the visible snapshots anew does not fail. -/
theorem refilterShowing_succeeds (h : Steady w v view) :
    (refilterShowing v).Ends w (fun _ w' => ∃ view', Steady w' v view') fun _ _ => False := by
  have refilters {w : World} {view : View} (h : Steady w v view) (hide : Value) :
      (refilterWith v hide).Ends w (fun _ w' => ∃ view', Steady w' v view')
        fun _ _ => False := by
    obtain ⟨group, hgroup⟩ := h.members
    rw [Act.ends_of_ok (runIn_refilterWith h.found hgroup hide)]
    exact ⟨_, h.write (.refilter hide hgroup) rfl rfl⟩
  unfold refilterShowing refilter
  rw [Act.ends_bind, Act.ends_bind, Act.ends_of_ok (Act.runIn_view h.found)]
  refine (refilters h _).mono (fun _ w' hx => ?_) fun _ _ hx => hx
  obtain ⟨view', h'⟩ := hx
  obtain ⟨group', hgroup'⟩ := h'.members
  rw [Act.ends_bind, Act.ends_of_ok (Act.runIn_view h'.found)]
  split
  · rw [Act.ends_bind, Act.ends_of_ok (Act.runIn_group hgroup'), Act.ends_bind]
    exact Act.ends_record.2 (refilters (h'.note _) _)
  · exact Act.ends_pure.2 ⟨view', h'⟩

theorem keepOn_succeeds (h : Steady w v view) (lowTarget highTarget : Option SnapshotRef) :
    (keepOn v lowTarget highTarget).Ends w (fun _ w' => ∃ view', Steady w' v view')
      fun _ _ => False := by
  unfold keepOn
  rw [Act.ends_bind, Act.ends_of_ok (Act.runIn_view h.found)]
  split
  · rename_i low hlow
    obtain ⟨s, -, hs⟩ := Option.bind_eq_some_iff.1 hlow
    have hlow := lt_of_indexOf? hs
    have hhigh : ((highTarget.bind (Sequence.indexOf? view.graphs)).getD low) <
        view.graphs.length := by
      cases htarget : highTarget.bind (Sequence.indexOf? view.graphs) with
      | none => exact hlow
      | some high =>
        obtain ⟨t, -, ht⟩ := Option.bind_eq_some_iff.1 htarget
        exact lt_of_indexOf? ht
    dsimp only
    generalize (highTarget.bind (Sequence.indexOf? view.graphs)).getD low = high at hhigh ⊢
    have hwindow : Window.ofBounds low (max low high : Nat) view.graphs.length =
        .ok ⟨low, (max low high : Nat)⟩ := if_pos ⟨by omega, by omega, by omega⟩
    rw [Act.ends_bind, hwindow, Act.ends_of_ok (Act.runIn_ofExcept_ok _ w)]
    refine Act.ends_modifyView.2 ⟨_, h.write (.move _ (Window.fitsIn_of_ofBounds hwindow)) rfl rfl⟩
  · exact Act.ends_pure.2 ⟨view, h⟩

theorem setSelectedNodes_succeeds (ids : NodeSet) {E : Failure → World → Prop} (w : World) :
    (setSelectedNodes a v ids).Ends w (fun _ _ => True) E := by
  unfold setSelectedNodes
  rw [Act.ends_bind, Act.ends_get, Act.ends_bind, Act.ends_modifyView]
  exact (announce_succeeds _ _).bind fun _ w' _ => announce_succeeds _ w'

theorem setHiddenNodes_succeeds (ids : NodeSet) {E : Failure → World → Prop} (w : World) :
    (setHiddenNodes a v ids).Ends w (fun _ _ => True) E := by
  unfold setHiddenNodes
  rw [Act.ends_bind, Act.ends_modifyView]
  exact announce_succeeds _ _

theorem tornOrSame_setToggle (h : Steady w v view) (t : Toggle) (on : Bool) :
    (setToggle a v t on).Ends w (fun _ _ => True) (TornOrSame v view) := by
  unfold setToggle
  rw [Act.ends_bind, Act.ends_of_ok (Act.runIn_view h.found)]
  split
  · rw [Act.ends_bind, Act.ends_modifyView]
    exact announce_succeeds _ _
  · exact Act.ends_pure.2 trivial

theorem tornOrSame_filterChainChanged (h : Steady w v view) :
    (filterChainChanged a v).Ends w (fun _ _ => True) (TornOrSame v view) := by
  unfold filterChainChanged draw
  rw [Act.ends_bind, Act.ends_of_ok (Act.runIn_view h.found)]
  split
  · exact Act.ends_throw.2 (h.same _)
  · refine Act.Ends.bind (Q := fun _ _ => True) ?_ fun _ w' _ => announce_succeeds _ w'
    rw [Act.ends_bind, Act.ends_of_ok (Act.runIn_view h.found), Act.ends_bind]
    refine (renders_stored.rebuild _ _ w).mono (fun d w' _ => ?_) fun e w' hfailed => ?_
    · exact Act.ends_modifyView.2 trivial
    · exact ⟨view, hfailed.1 ▸ h.found, fun _ => .inr rfl⟩

section

variable (ha : ∀ n w w', a v n w = some w' → Framed none w w')
  (hs : ∀ n w w', a v n w = some w' → Sound w → Sound w')

include ha hs

theorem tornOrSame_groupChanged (h : Steady w v view) :
    (groupChanged a v).Ends w (fun _ _ => True) (TornOrSame v view) := by
  unfold groupChanged
  rw [Act.ends_bind, Act.ends_of_ok (Act.runIn_view h.found)]
  refine ((refilterShowing_succeeds h).mono (fun _ _ hx => hx) fun _ _ hx => hx.elim).bind
    fun _ w₁ ⟨view₁, h₁⟩ => ?_
  refine ((keepOn_succeeds h₁ _ _).mono (fun _ _ hx => hx) fun _ _ hx => hx.elim).bind
    fun _ w₂ ⟨view₂, h₂⟩ => ?_
  have hmoved := h₂.andThen ha hs steps_windowMoved (turns_windowMoved ha).toRefreshes.toRedraws
  refine ((torn_windowMoved h₂).and hmoved).mono (fun _ _ hx => hx.2) (fun _ _ hx => hx.1.orSame)
    |>.bind fun replaced w₃ ⟨view₃, h₃⟩ => ?_
  have hkept := h₃.andThen ha hs (steps_announceKept replaced)
    (turns_announceKept ha replaced).toRedraws
  refine ((announceKept_succeeds replaced w₃).and hkept).mono (fun _ _ hx => hx.2)
    (fun _ _ hx => hx.1) |>.bind fun _ w₄ ⟨view₄, h₄⟩ => ?_
  rw [Act.ends_bind, Act.ends_of_ok (Act.runIn_view h₄.found)]
  exact setSelectedNodes_succeeds _ w₄

/-- A change that fails leaves the view torn or as it was, unless a snapshot was not found. -/
theorem tornOrSame_perform (h : Steady w v view) (m : Mutation) :
    (perform a v m).Ends w (fun _ _ => True) (TornOrSame v view) := by
  have ignoring {β : Type} {act : Act β}
      (hact : act.Ends w (fun _ _ => True) (TornOrSame v view)) :
      (do let _ ← act : Act Unit).Ends w (fun _ _ => True) (TornOrSame v view) :=
    hact.bind fun _ _ _ => Act.ends_pure.2 trivial
  cases m with
  | selectGraph s => exact ignoring (tornOrSame_selectGraph ha hs h s)
  | selectDifference s => exact tornOrSame_selectDifference ha hs h s
  | setWindow low high => exact ignoring (tornOrSame_setWindow h low high)
  | setHideDuplicates hide => exact tornOrSame_setHideDuplicates h hide
  | setSelectedNodes ids => exact setSelectedNodes_succeeds ids w
  | setHiddenNodes ids => exact setHiddenNodes_succeeds ids w
  | showOnly ids =>
    obtain ⟨group, hgroup⟩ := h.members
    unfold perform showOnly
    rw [Act.ends_bind, Act.ends_of_ok (Act.runIn_view h.found), Act.ends_bind,
      Act.ends_of_ok (Act.runIn_group hgroup), Act.ends_bind, Act.ends_get]
    exact setHiddenNodes_succeeds _ w
  | showFigures ids =>
    unfold perform showFigures
    rw [Act.ends_bind, Act.ends_of_ok (Act.runIn_view h.found)]
    exact setHiddenNodes_succeeds _ w
  | setToggle t on => exact tornOrSame_setToggle h t on
  | groupChanged => exact tornOrSame_groupChanged ha hs h
  | filterChainChanged => exact tornOrSame_filterChainChanged h

/-! ## Calls -/

/-- What is known of a view between the changes of a call: it is coherent, and none has failed. -/
structure Intact (v : ViewRef) (w₀ : World) (w : World) (view : View) : Prop where
  steady : Steady w v view
  resolved : Resolved w view
  flawless : ∃ es, w.trace = w₀.trace ++ es ∧ failures v es = []

/-- After a call that fails the view is coherent only if no change has failed partway, or if a
snapshot was not found. -/
def TornOrWhole (v : ViewRef) (w₀ : World) (e : Failure) (w' : World) : Prop :=
  ∃ view' es, w'.views[v]? = some view' ∧ w'.trace = w₀.trace ++ es ∧
    (Coherent w' view' → e.IsForeign ∨ Whole v es)

omit ha hs in
/-- A coherent view is intact when a call begins. -/
theorem Intact.start (hview : w.views[v]? = some view) {group : Group}
    (hgroup : w.groups[view.group]? = some group) (hsound : Sound w)
    (hcoherent : Coherent w view) :
    Intact v w (w.modifyView v fun view => { view with busy := true })
      { view with busy := true } := by
  have hkept : SnapshotsKept [] w (w.modifyView v fun view => { view with busy := true }) :=
    .of_eq rfl
  refine ⟨⟨views_modifyView_self hview _, rfl, (List.getElem?_eq_some_iff.1 hgroup).1,
    hsound.dispatch v fun _ => rfl, hcoherent.2.of_same rfl rfl⟩,
    hcoherent.1.mono hkept rfl rfl rfl, [], (List.append_nil _).symm, rfl⟩

omit ha hs in
/-- Steps that refresh the view leave it intact, if no change of it is noted as failed. -/
theorem Intact.refresh {w₀ w' : World} {view' : View} (h : Intact v w₀ w view)
    (h' : Steady w' v view') (hrefreshes : Refreshes w view w' view')
    (hes : ∃ es, w'.trace = w.trace ++ es ∧ failures v es = []) : Intact v w₀ w' view' := by
  obtain ⟨es, htrace, hflawless⟩ := h.flawless
  obtain ⟨es', htrace', hflawless'⟩ := hes
  refine ⟨h', hrefreshes.2 h.resolved, es ++ es', by rw [htrace', htrace, List.append_assoc], ?_⟩
  rw [failures_append, hflawless, hflawless', List.append_nil]

omit ha hs in
theorem Intact.recordAll {w₀ : World} {es : List Event} (h : Intact v w₀ w view)
    (hes : ∀ e ∈ es, ¬ e.IsDispatch) : Intact v w₀ (w.recordAll es) view := by
  have hkept : SnapshotsKept [] w (w.recordAll es) := .of_eq rfl
  have hsound : Sound (w.recordAll es) :=
    h.steady.sound.kept (.of_eq rfl) rfl h.steady.sound.pool h.steady.sound.members rfl
  exact h.refresh ⟨h.steady.found, h.steady.busy, h.steady.group, hsound, h.steady.drawn⟩
    ⟨.inr ⟨rfl, rfl⟩, fun hr => hr.mono hkept rfl rfl rfl⟩ ⟨es, rfl, failures_of_quiet hes⟩

omit hs in
/-- A change itself notes no failures: that is left to who carries it out. -/
theorem perform_quiet (h : Steady w v view) (m : Mutation) :
    (perform a v m).Ends w (fun _ w' => ∃ es, w'.trace = w.trace ++ es ∧ failures v es = [])
      fun _ w' => ∃ es, w'.trace = w.trace ++ es ∧ failures v es = [] := by
  have hquiet {w' : World} (hsteps : Steps a v w w') :
      ∃ es, w'.trace = w.trace ++ es ∧ failures v es = [] := by
    obtain ⟨es, hframe, hreceives⟩ := hsteps.frame ha
    obtain ⟨view', -, hreceived⟩ := hreceives view h.found h.busy
    exact ⟨es, hframe.trace, hreceived.quiet.2⟩
  exact (steps_perform m w).mono (fun _ _ h => hquiet h) fun _ _ h => hquiet h

/-- A change of an intact view leaves it intact, or torn, or as it was. -/
theorem carryOut_intact {w₀ : World} (h : Intact v w₀ w view) (m : Mutation) :
    (carryOut a v m).Ends w (fun _ w' => ∃ view', Intact v w₀ w' view')
      (TornOrWhole v w₀) := by
  refine ends_carryOut (fun hnone => nomatch h.steady.found.symm.trans hnone) fun x hx => ?_
  cases h.steady.found.symm.trans hx
  have hkept : SnapshotsKept [] w (w.record (.begun v m)) := .of_eq rfl
  have hnoted : Intact v w₀ (w.record (.begun v m)) view :=
    h.refresh (h.steady.note _) ⟨.refl view, fun hr => hr.mono hkept rfl rfl rfl⟩
      ⟨[.begun v m], rfl, rfl⟩
  have hsteady := hnoted.steady
  have hends := (hsteady.andThen ha hs (steps_perform m) (turns_perform ha m).toRedraws).and
    ((turns_perform ha m _ view hsteady.found hsteady.busy).and
      ((perform_quiet ha hsteady m).and (tornOrSame_perform ha hs hsteady m)))
  refine hends.mono (fun _ w' hx => ?_) fun e w' hx => ?_
  · obtain ⟨⟨view', h'⟩, ⟨u, hu, -, hrefreshes⟩, hquiet, -⟩ := hx
    cases h'.found.symm.trans hu
    exact ⟨view', hnoted.refresh h' hrefreshes hquiet⟩
  · obtain ⟨-, -, ⟨es', htrace', hflawless'⟩, view', hview', htorn⟩ := hx
    obtain ⟨es, htrace, hflawless⟩ := hnoted.flawless
    refine ⟨view', es ++ es' ++ [.failed v m e (w'.views[v]?.map View.sight != some view.sight)],
      hview', ?_, fun hcoherent => ?_⟩
    · rw [World.record, htrace', htrace]
      simp only [List.append_assoc]
    have hkept' : SnapshotsKept [] (w'.record
        (.failed v m e (w'.views[v]?.map View.sight != some view.sight))) w' := .of_eq rfl
    refine (htorn (hcoherent.of_sight hkept' rfl)).imp id fun hsame n hn => ?_
    rw [failures_append, failures_append, hflawless, hflawless', hview', Option.map_some,
      hsame] at hn
    simp [failures] at hn

/-- A call of an intact view leaves it intact, or it fails with a change that leaves the view torn
or as it was. -/
theorem runChange_intact {w₀ : World} (h : Intact v w₀ w view) (m : Mutation) :
    (runChange a v m).Ends w (fun _ w' => ∃ view', Intact v w₀ w' view') (TornOrWhole v w₀) := by
  refine (carryOut_intact ha hs h m).bind fun _ w₁ h₁ => ?_
  refine drain_ends (I := fun u => ∃ x, Intact v w₀ u x) (J := fun _ u => ∃ x, Intact v w₀ u x)
    (fun u hu => ?_) (fun n u hu => ?_) h₁
  · obtain ⟨x, hx⟩ := hu
    have htaken (rest : List Mutation) :
        Intact v w₀ (u.modifyView v fun view => { view with pending := rest })
          { x with pending := rest } := by
      have hkept : SnapshotsKept [] u
          (u.modifyView v fun view => { view with pending := rest }) := .of_eq rfl
      exact hx.refresh ⟨World.views_modifyView_self hx.steady.found _, hx.steady.busy,
        hx.steady.group, hx.steady.sound.dispatch v fun _ => rfl, hx.steady.drawn⟩
        ⟨.inr ⟨rfl, rfl⟩, fun hr => hr.mono hkept rfl rfl rfl⟩ ⟨[], (List.append_nil _).symm, rfl⟩
    refine ends_takeWaiting (fun hnone => ?_) (fun _ _ _ => ⟨x, hx⟩)
      (fun view _ _ hview _ hnone => ?_)
      (fun _ _ _ rest _ _ _ _ => ⟨_, (htaken rest).recordAll not_isDispatch_of_dropped⟩)
      fun _ _ _ rest _ _ _ _ _ => ⟨_, htaken rest⟩
    · cases hx.steady.found.symm.trans hnone
    · obtain ⟨group, hgroup⟩ := hx.steady.members
      cases hx.steady.found.symm.trans hview
      cases hgroup.symm.trans hnone
  · obtain ⟨x, hx⟩ := hu
    exact carryOut_intact ha hs hx n

end

/-- A view shows a graph for its two ends in every state of a session, and it is coherent if no
change of it has failed partway. A call leaves a coherent view coherent if and only if none of its
changes fails partway; only the failure of a snapshot that is not found says nothing about it. A
selection that returns leaves the window resolved. The diagram is one of the selected graph then if
it was one of the graph before, or if anything was replaced, and otherwise it is not. -/
theorem coherent_iff_whole (hw : w.Reachable) (hview : w.views[v]? = some view) :
    (∀ s, view.selection = some s → s.Shows w) ∧ (Whole v w.trace → Coherent w view) ∧
    ∀ (R : Respond) (group : Group) (m : Mutation) (r : Except Failure Unit) (w' : World),
      Listening R → view.closed = false → w.groups[view.group]? = some group →
      group.members ≠ [] → (mutate (announceView R) v m).runIn w = some (r, w') →
      ∃ view' es, w'.views[v]? = some view' ∧ w'.trace = w.trace ++ es ∧
        (Coherent w view → (∀ e, r = .error e → ¬ e.IsForeign) →
          (Coherent w' view' ↔ Whole v es)) ∧
        (Selects m → r = .ok () → Resolved w' view' ∧ (Drawn view' ↔
          Drawn view ∨ view'.selection ≠ view.selection ∨ view'.diagram ≠ view.diagram)) := by
  obtain ⟨hidle, -⟩ := hw.idle hview
  refine ⟨(hw.sound.view hview).selection, hw.coherent hview,
    fun R group m r w' hR hopen hgroup hmembers hrun => ?_⟩
  have ha := hR.announceView_framed v
  have hs := announceView_sound (fun k u u' hu => (hR k u u' hu).sound) v
  obtain ⟨es, htrace, hwhole⟩ :=
    (mutate_coherent (v := v) (fun k u u' hu => (hR k u u' hu).framed) m).of_runIn hrun
  rw [mutate_idle hview hopen hgroup hmembers hidle] at hrun
  obtain ⟨⟨outcome, u⟩, hu, hsettled⟩ := Option.map_eq_some_iff.1 hrun
  cases hsettled
  have hstart := views_modifyView_self hview fun view => { view with busy := true }
  obtain ⟨es', hframe⟩ := ((carries_framed ha).runChange m).of_runIn hu
  obtain ⟨before, hbefore, -⟩ := hframe.views v _ hstart
  have hsettle := views_modifyView_self hbefore
    fun view => { view with pending := [], busy := false }
  have hkept : SnapshotsKept [] u (settle v u) := .of_eq rfl
  refine ⟨_, es, hsettle, htrace, fun hcoherent hforeign => ⟨fun hafter => ?_, fun hes => ?_⟩,
    fun hm hok => ?_⟩
  · have hends := runChange_intact ha hs (.start hview hgroup hw.sound hcoherent) m
    cases r with
    | ok x =>
      obtain ⟨x, hx⟩ := hends.1 x u hu
      obtain ⟨es'', htrace', hflawless⟩ := hx.flawless
      cases List.append_cancel_left (htrace.symm.trans htrace')
      simp [Whole, hflawless]
    | error e =>
      obtain ⟨x, es'', hx, htrace', htorn⟩ := hends.2 e u hu
      cases List.append_cancel_left (htrace.symm.trans htrace')
      cases hbefore.symm.trans hx
      exact (htorn (hafter.of_sight hkept rfl)).resolve_left (hforeign e rfl)
  · refine hwhole hes (fun x hx _ => ?_) _ hsettle rfl
    cases hview.symm.trans hx
    exact hcoherent
  · subst hok
    obtain ⟨x, hx, -, hredrawn, hresolved⟩ := (turns_runChange ha hm _ _ hstart rfl).1 () u hu
    cases hbefore.symm.trans hx
    have hafter : Redrawn view { before with pending := [], busy := false } := hredrawn
    exact ⟨hresolved.mono hkept rfl rfl rfl, hafter.drawn_iff⟩

/-- A group of a snapshot with blocks and one without. -/
def halfScheduled : World :=
  { snapshots :=
      [{ id := 0, name := "a", blocks := .ofList [("b", {})], group := some 0 },
        { id := 1, name := "c", group := some 0 }]
    pool := [0, 1], groups := [⟨"g", [0, 1]⟩], chains := [[], []] }

theorem initial_halfScheduled : Initial halfScheduled where
  sound := ⟨by decide, by decide, by simp [halfScheduled]⟩
  views := rfl
  trace := rfl

/-- A view on the first snapshot of `halfScheduled`, without a scheduler. -/
def halfShown : World := (halfScheduled.run [.openView 0 0 1 none false (.bool false)]).getD {}

theorem reachable_halfShown : halfShown.Reachable :=
  initial_halfScheduled.reachable (by decide +kernel)

theorem halfShown_view : ∃ view, halfShown.views[0]? = some view ∧ view.closed = false ∧
    view.group = 0 := by
  have h : halfShown.views[0]?.map (fun view => (view.closed, view.group)) = some (false, 0) := by
    decide +kernel
  obtain ⟨view, hview, hfields⟩ := Option.map_eq_some_iff.1 h
  simp only [Prod.mk.injEq] at hfields
  exact ⟨view, hview, hfields⟩

/-- The failure of a step that has failed. -/
def failureOf (r : Except Failure Unit) : Option Failure :=
  match r with
  | .ok _ => none
  | .error e => some e

/-- The second snapshot is selected twice. The first call fails and the second one returns, and the
diagram is not the one of the graph in both cases. -/
theorem halfShown_select :
    ((mutate (announceView fun _ w => some w) 0 (.selectGraph 1)).runIn halfShown).any
      (fun p => ((mutate (announceView fun _ w => some w) 0 (.selectGraph 1)).runIn p.2).any
        fun q => failureOf p.1 = some (.noScheduler "c") ∧ failureOf q.1 = none ∧
          p.2.groups.map (·.members) = [[0, 1]] ∧
          (∃ view ∈ p.2.views[0]?, view.closed = false ∧ view.group = 0 ∧ ¬ Drawn view) ∧
          ∃ view ∈ q.2.views[0]?, ¬ Drawn view) = true := by
  unfold mutate runChange
  simp only [drain_eq_drainFirst _ _ 3]
  decide +kernel

theorem coherent_iff_whole_halfShown : ∃ view w' view' es, halfShown.views[0]? = some view ∧
    Coherent halfShown view ∧
    (mutate (announceView fun _ w => some w) 0 (.selectGraph 1)).runIn halfShown =
      some (.error (.noScheduler "c"), w') ∧
    w'.views[0]? = some view' ∧ w'.trace = halfShown.trace ++ es ∧
    (Coherent w' view' ↔ Whole 0 es) := by
  obtain ⟨view, hview, hopen, hgroup⟩ := halfShown_view
  obtain ⟨⟨r, w'⟩, hrun, hseen⟩ := Option.any_eq_true _ _ |>.1 halfShown_select
  obtain ⟨q, -, hseen⟩ := Option.any_eq_true _ _ |>.1 hseen
  obtain ⟨hfailed, -⟩ := of_decide_eq_true hseen
  cases r with
  | ok x => cases hfailed
  | error e =>
    cases hfailed
    have hmembers : halfShown.groups[view.group]? = some ⟨"g", [0, 1]⟩ := by
      rw [hgroup]
      rfl
    obtain ⟨-, hcoherent, hcalls⟩ := coherent_iff_whole reachable_halfShown hview
    have hwhole : failures 0 halfShown.trace = [] := by decide +kernel
    have hbefore := hcoherent (by simp [Whole, hwhole])
    obtain ⟨view', es, hview', htrace, hiff, -⟩ := hcalls (fun _ w => some w) _ _ _ _
      listening_unheard hopen hmembers (by decide) hrun
    refine ⟨view, w', view', es, hview, hbefore, hrun, hview', htrace, hiff hbefore fun e he => ?_⟩
    cases he
    exact id

/-- The state after a selection that has failed is not coherent, and when the selection is repeated
it returns, although the diagram is not the one of the selected graph. -/
theorem torn_after_failure :
    (¬ ∀ (w : World) (v : ViewRef) (view : View), w.Reachable → w.views[v]? = some view →
      Coherent w view) ∧
    ¬ ∀ (R : Respond) (w w' : World) (v : ViewRef) (view view' : View) (group : Group)
      (m : Mutation), Listening R → w.Reachable → w.views[v]? = some view → view.closed = false →
      w.groups[view.group]? = some group → group.members ≠ [] → Selects m →
      (mutate (announceView R) v m).runIn w = some (.ok (), w') → w'.views[v]? = some view' →
      Drawn view' := by
  obtain ⟨⟨r, w₁⟩, hrun, hseen⟩ := Option.any_eq_true _ _ |>.1 halfShown_select
  obtain ⟨⟨r', w₂⟩, hrun', hseen⟩ := Option.any_eq_true _ _ |>.1 hseen
  obtain ⟨hfailed, hreturned, hmembers, ⟨view, hview, hopen, hgroup, htorn⟩, view', hview',
    htorn'⟩ := of_decide_eq_true hseen
  have hreached : w₁.Reachable := by
    refine reachable_halfShown.execute (c := .selectGraph 0 1) (r := r.map fun _ => .done)
      (by decide +kernel) ?_
    have hplace : halfShown.pool[1]? = some 1 := by decide +kernel
    rw [Command.execute, Act.runIn_bind_ok (Command.runIn_pooled hplace), Command.runIn_change, hrun]
    rfl
  obtain ⟨group, hgroup', hgroupMembers⟩ :=
    group_of_members (g := view.group) hmembers (by rw [hgroup]; rfl)
  refine ⟨fun hall => htorn (hall w₁ 0 view hreached hview).2, fun hall => htorn' ?_⟩
  cases r' with
  | ok x =>
    exact hall _ w₁ w₂ 0 view view' group (.selectGraph 1) listening_unheard hreached hview hopen
      hgroup' (by simp [hgroupMembers]) trivial hrun' hview'
  | error e => cases hreturned

end View

end SnapshotViewer
