import SnapshotViewer.Proofs.View.PartialFailure

/-!
# Selecting what the group does not hold

A selection first looks for its snapshot among the visible ones. If it is not there and duplicates
are hidden, they are shown and it is looked for again (`locate`). For a snapshot that the group does
not hold this is in vain, and the duplicates stay shown. The view is left as it was only if the
first look settles the matter (`RejectedEarly`). Main statement: `untouched_iff_rejectedEarly`.
-/

namespace SnapshotViewer

/-- A value was not accepted. The other failures are of something that is missing, of a wrong type
or that cannot be read. -/
def Failure.IsBadValue : Failure → Prop
  | .badNumeral _ | .danglingEdge | .invalidWindow .. | .notInSequence _ | .onlyDuplicates
  | .nestedDifference _ | .notAMember .. | .foreignSnapshot .. | .ungrouped _ | .filterNotListed
  | .filterNotFound _ | .badDefaultView _ | .notAMapping _ | .unknownLevel _ => True
  | _ => False

/-- The two snapshots that the window of a view resolves to. -/
def World.ends (w : World) (view : View) : Except Failure (SnapshotRef × SnapshotRef) := do
  return (← w.firstGraph view, ← w.secondGraph view)

theorem World.ends_ok {w : World} {view : View} {first second : SnapshotRef}
    (hfirst : w.firstGraph view = .ok first) (hsecond : w.secondGraph view = .ok second) :
    w.ends view = .ok (first, second) := by
  rw [ends, hfirst, hsecond]
  rfl

namespace View

open World

/-- The change selects a snapshot, alone or for a comparison. -/
def Picks (s : SnapshotRef) (m : Mutation) : Prop := m = .selectGraph s ∨ m = .selectDifference s

/-- The window that selecting the snapshot at a position asks for. -/
def windowFor (view : View) (i : Nat) : Mutation → Except Failure Window
  | .selectDifference _ => view.window.anchorTo i view.graphs.length
  | _ => Window.ofBounds i i view.graphs.length

/-- The outcome is the failure of a value that was not accepted. -/
def Rejects {α : Type} (r : Except Failure α) : Prop := ∃ e, r = .error e ∧ e.IsBadValue

/-- The first look for a snapshot settles the matter. If the snapshot is not visible, there are no
duplicates to show, or what to select instead cannot be found. If it is visible, the window is where
it should be, and is not resolved. -/
def RejectedEarly (w : World) (view : View) (s : SnapshotRef) (m : Mutation) : Prop :=
  match Sequence.indexOf? view.graphs s with
  | none => view.hides = false ∨ view.graphs ≠ [] ∧ Rejects (w.firstGraph view)
  | some i => windowFor view i m = .ok view.window ∧ Rejects (w.ends view)

/-- What is shown of a view is the same. -/
structure SameShown (view view' : View) : Prop where
  hideDuplicates : view'.hideDuplicates = view.hideDuplicates
  graphs : view'.graphs = view.graphs
  window : view'.window = view.window
  positions : view'.positions = view.positions
  colors : view'.colors = view.colors
  graph : view'.graph? = view.graph?
  diagram : view'.diagram = view.diagram
  selectedNodes : view'.selectedNodes = view.selectedNodes
  hiddenNodes : view'.hiddenNodes = view.hiddenNodes

/-- A call has failed because a value was not accepted. It has emitted no signal, and what is shown
is the same. -/
def Untouched (v : ViewRef) (w : World) (view : View) (r : Except Failure Unit) (w' : World) :
    Prop :=
  Rejects r ∧ ∃ es view', w'.trace = w.trace ++ es ∧ (∀ signal, .signalled signal ∉ es) ∧
    w'.views[v]? = some view' ∧ SameShown view view'

variable {a : Announce} {v : ViewRef} {w : World} {view : View} {group : Group} {s : SnapshotRef}
  {m : Mutation}

/-- Both ways to select a snapshot locate it and move the window. -/
theorem perform_picks (hm : Picks s m) : perform a v m = (do
    let i ← locate a v s
    let view ← Act.view v
    let window ← Act.ofExcept (windowFor view i m)
    Act.modifyView v fun view => { view with window }
    let _ ← windowMoved a v) := by
  rcases hm with rfl | rfl
  · simp only [perform, selectGraph, setWindow, bind_assoc]
    rfl
  · rfl

/-! ## Early failures -/

/-- A window that is not resolved is not shown. -/
theorem windowMoved_of_error (hview : w.views[v]? = some view) {e : Failure}
    (he : w.ends view = .error e) : (windowMoved a v).runIn w = some (.error e, w) := by
  have hshow : (showWindow a v).runIn w = some (.error e, w) := by
    unfold showWindow
    rw [Act.runIn_bind_ok (Act.runIn_view hview), Act.runIn_bind_ok (Act.runIn_get w)]
    cases hfirst : w.firstGraph view with
    | error e' =>
      rw [World.ends, hfirst] at he
      cases he
      exact Act.runIn_bind_error (Act.runIn_ofExcept_error _ w)
    | ok first =>
      rw [Act.runIn_bind_ok (Act.runIn_ofExcept_ok _ w)]
      cases hsecond : w.secondGraph view with
      | error e' =>
        rw [World.ends, hfirst, hsecond] at he
        cases he
        exact Act.runIn_bind_error (Act.runIn_ofExcept_error _ w)
      | ok second =>
        rw [World.ends_ok hfirst hsecond] at he
        cases he
  exact Act.runIn_bind_error hshow

/-- A visible snapshot is located at once. -/
theorem locate_visible (hview : w.views[v]? = some view) {i : Nat}
    (hi : Sequence.indexOf? view.graphs s = some i) :
    (locate a v s).runIn w = some (.ok i, w) := by
  unfold locate
  rw [Act.runIn_bind_ok (Act.runIn_view hview), hi]
  exact Act.runIn_pure i w

/-- Without hidden duplicates a snapshot that is not visible is not in the group. -/
theorem locate_foreign (hview : w.views[v]? = some view)
    (hgroup : w.groups[view.group]? = some group)
    (hnone : Sequence.indexOf? view.graphs s = none) (hshown : view.hides = false) :
    (locate a v s).runIn w = some (.error (.foreignSnapshot (w.nameOf s) group.name), w) := by
  have hkept : (showDuplicates a v).runIn w = some (.ok (), w) := by
    unfold showDuplicates
    rw [Act.runIn_bind_ok (Act.runIn_view hview), if_neg (by simp [hshown]), Act.runIn_pure]
  unfold locate foreign
  rw [Act.runIn_bind_ok (Act.runIn_view hview), hnone]
  dsimp only
  rw [Act.runIn_bind_ok hkept, Act.runIn_bind_ok (Act.runIn_view hview), hnone]
  dsimp only
  rw [Act.runIn_bind_ok (Act.runIn_view hview), Act.runIn_bind_ok (Act.runIn_group hgroup),
    Act.runIn_bind_ok (Act.runIn_get w), Act.runIn_throw]

/-- Duplicates are not shown if it cannot be told what to select then. -/
theorem locate_unresolved (hview : w.views[v]? = some view)
    (hgroup : w.groups[view.group]? = some group)
    (hnone : Sequence.indexOf? view.graphs s = none) (hhides : view.hides = true)
    (hgraphs : view.graphs ≠ []) {e : Failure} (he : w.firstGraph view = .error e) :
    (locate a v s).runIn w = some (.error e, w) := by
  have htarget : (targetOf v false).runIn w = some (.error e, w) := by
    unfold targetOf anchorOf
    refine Act.runIn_bind_error ?_
    rw [Act.runIn_bind_ok (Act.runIn_view hview), Act.runIn_bind_ok (Act.runIn_group hgroup),
      Act.runIn_bind_ok (Act.runIn_get w), he]
    exact Act.runIn_bind_error (Act.runIn_ofExcept_error _ w)
  have hshow : (showDuplicates a v).runIn w = some (.error e, w) := by
    unfold showDuplicates toggleDuplicates
    rw [Act.runIn_bind_ok (Act.runIn_view hview), if_pos hhides,
      Act.runIn_bind_ok (Act.runIn_view hview),
      if_neg (by simp [Value.sameBool_false_of_isTrue hhides]), if_neg (by simpa using hgraphs)]
    exact Act.runIn_bind_error htarget
  unfold locate
  rw [Act.runIn_bind_ok (Act.runIn_view hview), hnone]
  exact Act.runIn_bind_error hshow

/-- A selection that is rejected early fails and changes nothing. -/
theorem perform_rejectedEarly (hview : w.views[v]? = some view)
    (hgroup : w.groups[view.group]? = some group) (hm : Picks s m)
    (hearly : RejectedEarly w view s m) :
    ∃ e u, (perform a v m).runIn w = some (.error e, u) ∧ e.IsBadValue ∧ u.trace = w.trace ∧
      u.views[v]? = some view := by
  rw [perform_picks hm]
  unfold RejectedEarly at hearly
  split at hearly
  · rename_i hnone
    obtain hshown | ⟨hgraphs, e, he, hbad⟩ := hearly
    · exact ⟨_, w, Act.runIn_bind_error (locate_foreign hview hgroup hnone hshown), trivial, rfl,
        hview⟩
    · cases hhides : view.hides with
      | false =>
        exact ⟨_, w, Act.runIn_bind_error (locate_foreign hview hgroup hnone hhides), trivial, rfl,
          hview⟩
      | true =>
        exact ⟨e, w, Act.runIn_bind_error (locate_unresolved hview hgroup hnone hhides hgraphs he),
          hbad, rfl, hview⟩
  · rename_i i hi
    obtain ⟨hwindow, e, he, hbad⟩ := hearly
    have hmoved := views_modifyView_self hview fun x => { x with window := view.window }
    refine ⟨e, w.modifyView v fun x => { x with window := view.window }, ?_, hbad, rfl, hmoved⟩
    rw [Act.runIn_bind_ok (locate_visible hview hi), Act.runIn_bind_ok (Act.runIn_view hview),
      hwindow, Act.runIn_bind_ok (Act.runIn_ofExcept_ok _ w),
      Act.runIn_bind_ok (Act.runIn_modifyView v _ w)]
    exact Act.runIn_bind_error (windowMoved_of_error hmoved he)

/-! ## Later failures -/

/-- What a step of a busy view leaves: the visible snapshots and the window. -/
def KeepsGraphs (v : ViewRef) (w w' : World) : Prop :=
  ∀ view, w.views[v]? = some view → view.busy = true →
    ∃ view', w'.views[v]? = some view' ∧ view'.busy = true ∧
      view'.hideDuplicates = view.hideDuplicates ∧ view'.graphs = view.graphs ∧
      view'.window = view.window

theorem KeepsGraphs.of_views {w' : World} (h : w'.views = w.views) : KeepsGraphs v w w' :=
  fun view hview hbusy => ⟨view, h ▸ hview, hbusy, rfl, rfl, rfl⟩

theorem chains_keepsGraphs : Act.Chains (KeepsGraphs v) := by
  refine ⟨fun _ => .of_views rfl, fun {w w' w''} h h' view hview hbusy => ?_⟩
  obtain ⟨view', hview', hbusy', hhide, hgraphs, hwindow⟩ := h view hview hbusy
  obtain ⟨view'', hview'', hbusy'', hhide', hgraphs', hwindow'⟩ := h' view' hview' hbusy'
  exact ⟨view'', hview'', hbusy'', hhide'.trans hhide, hgraphs'.trans hgraphs,
    hwindow'.trans hwindow⟩

theorem renders_keepsGraphs : Renders (KeepsGraphs v) where
  chains := chains_keepsGraphs
  note _ _ _ := .of_views rfl
  assign _ _ _ _ _ _ _ := .of_views rfl
  archive _ _ _ _ _ _ _ := .of_views rfl
  count _ _ := .of_views rfl

/-- Replacing the selection and the diagram. -/
theorem keepsGraphs_show (w : World) (selection : View → Option Selection)
    (diagram : View → Option Diagram) : KeepsGraphs v w (w.modifyView v fun view =>
      { view with selection := selection view, diagram := diagram view }) :=
  fun _ hview hbusy => ⟨_, views_modifyView_self hview _, hbusy, rfl, rfl, rfl⟩

theorem keepsGraphs_announce (ha : ∀ n w w', a v n w = some w' → Framed none w w') (n : Notice) :
    (announce a v n).Within (KeepsGraphs v) := by
  refine Act.within_yield fun w w' hw' view hview hbusy => ?_
  obtain ⟨es, hframe⟩ := ha n w w' hw'
  obtain ⟨view', hview', -, hleft⟩ := hframe.views v view hview
  have hrest := (hleft (by simp)).rest hbusy
  refine ⟨view', hview', (hleft (by simp)).busy.trans hbusy, ?_, ?_, ?_⟩
  all_goals rw [hrest]

section

variable (ha : ∀ n w w', a v n w = some w' → Framed none w w')

include ha

/-- Showing the window leaves it where it is. -/
theorem keepsGraphs_windowMoved : (windowMoved a v).Within (KeepsGraphs v) :=
  within_windowMoved renders_keepsGraphs keepsGraphs_show (keepsGraphs_announce ha)

theorem keepsGraphs_announceKept (replaced : Bool) :
    (announceKept a v replaced).Within (KeepsGraphs v) := by
  unfold announceKept
  split
  · exact Act.within_pure chains_keepsGraphs _
  · exact keepsGraphs_announce ha _

end

/-- All of these snapshots are visible and duplicates are shown. -/
def DuplicatesShown (v : ViewRef) (members : List SnapshotRef) (w : World) : Prop :=
  ∃ view, w.views[v]? = some view ∧ view.busy = true ∧ view.hideDuplicates = .bool false ∧
    view.graphs = members

theorem DuplicatesShown.keeps {members : List SnapshotRef} {w' : World}
    (h : DuplicatesShown v members w) (hkept : KeepsGraphs v w w') :
    DuplicatesShown v members w' := by
  obtain ⟨view, hview, hbusy, hhide, hgraphs⟩ := h
  obtain ⟨view', hview', hbusy', hhide', hgraphs', -⟩ := hkept view hview hbusy
  exact ⟨view', hview', hbusy', hhide'.trans hhide, hgraphs'.trans hgraphs⟩

/-- What to select when duplicates are shown is found if the window has a first end. -/
theorem targetOf_found (hview : w.views[v]? = some view)
    (hgroup : w.groups[view.group]? = some group) (hgraphs : view.graphs ≠ [])
    {first : SnapshotRef} (hfirst : w.firstGraph view = .ok first) :
    ∃ target, (targetOf v false).runIn w = some (.ok target, w) := by
  have hanchor : ∃ target, (anchorOf v).runIn w = some (.ok target, w) := by
    unfold anchorOf
    rw [Act.runIn_bind_ok (Act.runIn_view hview), Act.runIn_bind_ok (Act.runIn_group hgroup),
      Act.runIn_bind_ok (Act.runIn_get w), hfirst, Act.runIn_bind_ok (Act.runIn_ofExcept_ok _ w)]
    split
    · exact ⟨first, Act.runIn_pure _ w⟩
    · have hpos := List.length_pos_iff.2 hgraphs
      have hlt : (min view.window.low (view.graphs.length - 1)).toNat < view.graphs.length := by
        omega
      rw [itemAt?, List.getElem?_eq_getElem hlt]
      exact ⟨_, Act.runIn_pure _ w⟩
  obtain ⟨target, htarget⟩ := hanchor
  refine ⟨target, ?_⟩
  unfold targetOf
  rw [Act.runIn_bind_ok htarget, Act.runIn_bind_ok (Act.runIn_view hview),
    Act.runIn_bind_ok (Act.runIn_group hgroup), Act.runIn_bind_ok (Act.runIn_get w),
    if_neg (by simp), Act.runIn_pure]

section

variable (ha : ∀ n w w', a v n w = some w' → Framed none w w')

include ha

theorem shown_selectVisible {members : List SnapshotRef} (h : DuplicatesShown v members w)
    (target : SnapshotRef) : (selectVisible a v target).Ends w
      (fun _ u => DuplicatesShown v members u) fun _ u => DuplicatesShown v members u := by
  obtain ⟨view, hview, hbusy, hhide, hgraphs⟩ := id h
  unfold selectVisible
  rw [Act.ends_bind, Act.ends_of_ok (Act.runIn_view hview)]
  split
  · rename_i i _
    unfold setWindow
    rw [Act.ends_bind, Act.ends_of_ok (Act.runIn_view hview), Act.ends_bind]
    refine Act.ends_ofExcept (fun window _ => ?_) fun _ _ => h
    rw [Act.ends_bind, Act.ends_modifyView]
    have hmoved : DuplicatesShown v members (w.modifyView v fun view => { view with window }) :=
      ⟨_, views_modifyView_self hview _, hbusy, hhide, hgraphs⟩
    exact (keepsGraphs_windowMoved ha _).mono (fun _ _ hkept => hmoved.keeps hkept)
      fun _ _ hkept => hmoved.keeps hkept
  · exact (within_foreign chains_keepsGraphs target w).mono (fun _ _ hkept => h.keeps hkept)
      fun _ _ hkept => h.keeps hkept

/-- If duplicates are hidden and it can be told what to select, they are shown, whatever happens
then. -/
theorem shown_showDuplicates (hview : w.views[v]? = some view) (hbusy : view.busy = true)
    (hgroup : w.groups[view.group]? = some group) (hhides : view.hides = true)
    (hfirst : view.graphs ≠ [] → ∃ first, w.firstGraph view = .ok first) :
    (showDuplicates a v).Ends w (fun _ u => DuplicatesShown v group.members u)
      fun _ u => DuplicatesShown v group.members u := by
  have hrefilter := runIn_refilterWith hview hgroup (.bool false)
  have hshown : DuplicatesShown v group.members
      (w.modifyView v (refiltered w (.bool false) group.members)) := by
    refine ⟨_, views_modifyView_self hview _, hbusy, rfl, ?_⟩
    exact List.filter_eq_self.2 fun _ _ => rfl
  unfold showDuplicates toggleDuplicates
  rw [Act.ends_bind, Act.ends_of_ok (Act.runIn_view hview), if_pos hhides, Act.ends_bind,
    Act.ends_of_ok (Act.runIn_view hview), if_neg (by simp [Value.sameBool_false_of_isTrue hhides])]
  split
  · exact (Act.ends_of_ok hrefilter).2 hshown
  · rename_i hgraphs
    rw [List.isEmpty_iff] at hgraphs
    obtain ⟨first, hfirst⟩ := hfirst hgraphs
    obtain ⟨target, htarget⟩ := targetOf_found hview hgroup hgraphs hfirst
    rw [Act.ends_bind, Act.ends_of_ok htarget, Act.ends_bind, Act.ends_of_ok hrefilter]
    refine (shown_selectVisible ha hshown target).bind fun replaced u hu => ?_
    exact (keepsGraphs_announceKept ha replaced u).mono (fun _ _ hkept => hu.keeps hkept)
      fun _ _ hkept => hu.keeps hkept

/-- Looking for a snapshot that the group does not hold fails after duplicates were shown. -/
theorem locate_shown (hview : w.views[v]? = some view) (hbusy : view.busy = true)
    (hgroup : w.groups[view.group]? = some group) (hs : s ∉ group.members)
    (hnone : Sequence.indexOf? view.graphs s = none) (hhides : view.hides = true)
    (hfirst : view.graphs ≠ [] → ∃ first, w.firstGraph view = .ok first) :
    (locate a v s).Ends w (fun _ _ => False) fun _ u => DuplicatesShown v group.members u := by
  unfold locate
  rw [Act.ends_bind, Act.ends_of_ok (Act.runIn_view hview), hnone]
  refine (shown_showDuplicates ha hview hbusy hgroup hhides hfirst).bind fun _ u hu => ?_
  obtain ⟨view', hview', -, -, hgraphs⟩ := id hu
  rw [Act.ends_bind, Act.ends_of_ok (Act.runIn_view hview'), hgraphs,
    Sequence.indexOf?_eq_none.2 hs]
  exact (foreign_fails s u).and (within_foreign chains_keepsGraphs s u) |>.mono
    (fun _ _ hx => hx.1) fun _ _ hx => hu.keeps hx.2

end

/-- A signal was emitted between two worlds. -/
def Signals (w w' : World) : Prop :=
  ∃ es, w'.trace = w.trace ++ es ∧ ∃ signal, .signalled signal ∈ es

theorem Signals.after {w' w'' : World} (h' : Signals w' w'') (h : Grows w w') :
    Signals w w'' := by
  obtain ⟨es, htrace⟩ := h
  obtain ⟨es', htrace', signal, hsignal⟩ := h'
  exact ⟨es ++ es', by rw [htrace', htrace, List.append_assoc], signal,
    List.mem_append_right _ hsignal⟩

theorem Signals.grows {w' w'' : World} (h : Signals w w') (h' : Grows w' w'') :
    Signals w w'' := by
  obtain ⟨es, htrace, signal, hsignal⟩ := h
  obtain ⟨es', htrace'⟩ := h'
  exact ⟨es ++ es', by rw [htrace', htrace, List.append_assoc], signal,
    List.mem_append_left _ hsignal⟩

/-- What a view announces is a signal. -/
theorem signals_announceView {R : Respond} (hR : Listening R) (n : Notice) {w' : World}
    (h : announceView R v n w = some w') : Signals w w' := by
  have hnoted : Framed none w (w.noteReading v n) := noteReading_within chains_framed
    (fun u _ => framed_record u (by simp [Event.IsDispatch])) w
  have hcalls : Framed none ((w.noteReading v n).record (.signalled (.view v n))) w' :=
    foldlM_within chains_framed (fun c _ u u' hu => deliver_within chains_framed
      (fun slot x x' hx => by
        cases slot with
        | listener k => exact (hR k x x' hx).framed
        | follow _ =>
          cases hx
          exact chains_framed.refl x) hu) h
  have hsignal : Signals (w.noteReading v n)
      ((w.noteReading v n).record (.signalled (.view v n))) :=
    ⟨_, rfl, _, List.mem_singleton_self _⟩
  exact (hsignal.grows hcalls.grows).after hnoted.grows

/-- When a window is not shown because a value was not accepted, it is not resolved, or the graph is
another one than before. -/
theorem showWindow_fails (hview : w.views[v]? = some view) (hsound : Sound w) :
    (showWindow a v).Ends w (fun _ _ => True) fun e w' => e.IsBadValue →
      w.ends view = .error e ∨ ∃ view', w'.views[v]? = some view' ∧ view'.graph? ≠ view.graph? := by
  refine ends_showWindow hview (fun e he _ => .inl (by rw [World.ends, he]; rfl))
    (fun first e hfirst he _ => .inl (by rw [World.ends, hfirst, he]; rfl))
    (fun _ _ _ _ _ => trivial) fun first second hfirst _ hknows => ?_
  refine (showEnds_fails hview hsound hfirst (Bool.eq_false_iff.1 hknows)).mono (fun _ _ h => h)
    fun e w' hx hbad => ?_
  obtain ⟨rfl, -⟩ | ⟨graph, hview', hne⟩ := hx
  · exact hbad.elim
  · refine .inr ⟨_, hview', fun hsame => ?_⟩
    obtain ⟨s, hs, hgraph⟩ := Option.map_eq_some_iff.1 hsame.symm
    exact hne s hs hgraph

section

variable (ha : ∀ n w w', a v n w = some w' → Framed none w w')
  (hn : ∀ n w w', a v n w = some w' → Signals w w')

include ha hn

/-- When the window is shown, a signal is emitted. -/
theorem windowMoved_signals : (windowMoved a v).Ends w (fun _ w' => Signals w w')
    fun _ _ => True := by
  unfold windowMoved
  refine Act.Ends.bind (Q := fun _ w' => Grows w w') ((steps_showWindow w).mono
    (fun _ w' h => (h.frame ha).imp fun _ hes => hes.1.trace) fun _ _ _ => trivial)
    fun replaced w' hw' => ?_
  exact Act.ends_bind.2 (Act.ends_yield.2 fun w'' hw'' =>
    Act.ends_pure.2 ((hn _ _ _ hw'').after hw'))

/-- Moving the window to where it fits emits a signal or changes what is shown, unless the window is
there already and is not resolved. -/
theorem moveWindow_later (hview : w.views[v]? = some view) (hbusy : view.busy = true)
    (hsound : Sound w) {window : Window} (hfits : window.FitsIn view.graphs.length)
    (hlate : ¬ (window = view.window ∧ Rejects (w.ends view))) : (do
      Act.modifyView v fun view => { view with window }
      let _ ← windowMoved a v : Act Unit).Ends w (fun _ w' => Signals w w') fun e w' =>
        e.IsBadValue → ∃ view', w'.views[v]? = some view' ∧ ¬ SameShown view view' := by
  have hmoved := views_modifyView_self hview fun x => { x with window }
  have hsound' : Sound (w.modifyView v fun x => { x with window }) :=
    hsound.modifyView v fun x hx => by
      cases hview.symm.trans hx
      exact (hsound.view hview).write hsound (.move window hfits)
  have hfails : (windowMoved a v).Ends (w.modifyView v fun x => { x with window })
      (fun _ _ => True) _ :=
    (showWindow_fails hmoved hsound').bind fun _ w' _ =>
      (announce_succeeds _ w').bind fun _ _ _ => Act.ends_pure.2 trivial
  rw [Act.ends_bind, Act.ends_modifyView]
  refine Act.Ends.bind (Q := fun _ w' => Signals w w') (((windowMoved_signals ha hn).and
    (hfails.and (keepsGraphs_windowMoved ha _))).mono (fun _ _ hx => hx.1) fun e w' hx hbad => ?_)
    fun _ _ hx => Act.ends_pure.2 hx
  obtain ⟨-, hfailed, hkept⟩ := hx
  obtain ⟨view', hview', -, -, -, hwindow⟩ := hkept _ hmoved hbusy
  refine ⟨view', hview', fun hsame => ?_⟩
  obtain hends | ⟨u, hu, hgraph⟩ := hfailed hbad
  · have hstays : window = view.window := hwindow.symm.trans hsame.window
    subst hstays
    exact hlate ⟨rfl, e, hends, hbad⟩
  · cases hview'.symm.trans hu
    exact hgraph hsame.graph

omit hn in
/-- A snapshot that is neither visible nor in the group is not found: there are no duplicates to
show, or it cannot be told what to select then, or they are shown. -/
theorem perform_absent (hview : w.views[v]? = some view) (hbusy : view.busy = true)
    (hgroup : w.groups[view.group]? = some group) (hs : s ∉ group.members) (hm : Picks s m)
    (hnone : Sequence.indexOf? view.graphs s = none) :
    (perform a v m).Ends w (fun _ _ => False) fun e w' => view.hides = false ∨
      (view.graphs ≠ [] ∧ w.firstGraph view = .error e) ∨
      DuplicatesShown v group.members w' := by
  rw [perform_picks hm]
  refine Act.Ends.bind (Q := fun _ _ => False) ?_ fun _ _ hfalse => hfalse.elim
  cases hhides : view.hides with
  | false =>
    rw [Act.ends_of_error (locate_foreign hview hgroup hnone hhides)]
    exact .inl rfl
  | true =>
    by_cases hfirst : view.graphs ≠ [] → ∃ first, w.firstGraph view = .ok first
    · exact (locate_shown ha hview hbusy hgroup hs hnone hhides hfirst).mono (fun _ _ h => h)
        fun _ _ h => .inr (.inr h)
    · rw [Classical.not_imp] at hfirst
      obtain ⟨hgraphs, hnot⟩ := hfirst
      cases he : w.firstGraph view with
      | ok first => exact absurd ⟨first, he⟩ hnot
      | error e =>
        rw [Act.ends_of_error (locate_unresolved hview hgroup hnone hhides hgraphs he)]
        exact .inr (.inl ⟨hgraphs, rfl⟩)

/-- A selection that is not rejected early emits a signal or changes what is shown, if it does not
fail otherwise. -/
theorem perform_later (hview : w.views[v]? = some view) (hbusy : view.busy = true)
    (hsound : Sound w) (hgroup : w.groups[view.group]? = some group) (hs : s ∉ group.members)
    (hm : Picks s m) (hlate : ¬ RejectedEarly w view s m) :
    (perform a v m).Ends w (fun _ w' => Signals w w') fun e w' => e.IsBadValue →
      ∃ view', w'.views[v]? = some view' ∧ ¬ SameShown view view' := by
  unfold RejectedEarly at hlate
  split at hlate
  · rename_i hnone
    refine (perform_absent ha hview hbusy hgroup hs hm hnone).mono (fun _ _ h => h.elim)
      fun e w' hx hbad => ?_
    obtain hshown | ⟨hgraphs, he⟩ | ⟨view', hview', -, hhide, -⟩ := hx
    · exact absurd (.inl hshown) hlate
    · exact absurd (.inr ⟨hgraphs, e, he, hbad⟩) hlate
    · refine ⟨view', hview', fun hsame => hlate (.inl ?_)⟩
      rw [hides, ← hsame.hideDuplicates, hhide]
      rfl
  · rename_i i hi
    rw [perform_picks hm]
    have hlt := lt_of_indexOf? hi
    obtain ⟨window, hwindow⟩ : ∃ window, windowFor view i m = .ok window := by
      rcases hm with rfl | rfl
      · exact ⟨⟨i, i⟩, if_pos ⟨by omega, by omega, by omega⟩⟩
      · exact (hsound.view hview).anchorTo hlt
    have hfits : window.FitsIn view.graphs.length := by
      rcases hm with rfl | rfl
      · exact Window.fitsIn_of_ofBounds hwindow
      · exact Window.fitsIn_of_anchorTo hwindow
    rw [Act.ends_bind, Act.ends_of_ok (locate_visible hview hi), Act.ends_bind,
      Act.ends_of_ok (Act.runIn_view hview), Act.ends_bind, hwindow,
      Act.ends_of_ok (Act.runIn_ofExcept_ok _ w)]
    exact moveWindow_later ha hn hview hbusy hsound hfits fun hearly =>
      hlate ⟨hearly.1 ▸ hwindow, hearly.2⟩

end

/-! ## Calls -/

/-- The world in which the steps of a change begin. -/
def begun (v : ViewRef) (m : Mutation) (w : World) : World :=
  (w.modifyView v fun view => { view with busy := true }).record (.begun v m)

theorem begun_view (hview : w.views[v]? = some view) :
    (begun v m w).views[v]? = some { view with busy := true } := views_modifyView_self hview _

/-- A call of an idle view fails with the failure of its change, or goes on from there. -/
theorem mutate_runIn (hview : w.views[v]? = some view) (hopen : view.closed = false)
    (hgroup : w.groups[view.group]? = some group) (hmembers : group.members ≠ [])
    (hidle : view.busy = false) :
    (mutate a v m).runIn w = ((perform a v m).runIn (begun v m w)).bind fun
      | (.ok (), u) => ((drain a v).runIn u).map fun (outcome, w) => (outcome, settle v w)
      | (.error e, u) => some (.error e, settle v (u.record (.failed v m e
          (u.views[v]?.map View.sight != some view.sight)))) := by
  rw [mutate_idle hview hopen hgroup hmembers hidle, runChange, Act.runIn_bind, carryOut,
    Act.runIn_bind_ok (Act.runIn_view (views_modifyView_self hview _)),
    Act.runIn_bind_ok (Act.runIn_record _ _), Act.runIn_onFailure]
  change (Option.bind (Option.map _ ((perform a v m).runIn (begun v m w))) _).map _ = _
  cases (perform a v m).runIn (begun v m w) with
  | none => rfl
  | some p =>
    obtain ⟨r, u⟩ := p
    cases r <;> rfl

/-- A change that has failed leaves the view idle. -/
theorem settle_record_view (hview : w.views[v]? = some view) (e : Event) :
    (settle v (w.record e)).views[v]? = some { view with pending := [], busy := false } :=
  views_modifyView_self hview _

theorem begun_sound (hw : Sound w) : Sound (begun v m w) :=
  (hw.dispatch v fun _ => rfl).record _

/-- What is shown does not depend on whether a change is under way and what waits. -/
theorem SameShown.of_dispatch {view' : View} {busy busy' : Bool} {pending : List Mutation}
    (h : SameShown view { view' with pending, busy }) :
    SameShown { view with busy := busy' } view' :=
  ⟨h.hideDuplicates, h.graphs, h.window, h.positions, h.colors, h.graph, h.diagram,
    h.selectedNodes, h.hiddenNodes⟩

/-- After a signal was emitted, a call has not left everything as it was. -/
theorem not_untouched_of_signals {r : Except Failure Unit} {w' : World} (h : Signals w w') :
    ¬ Untouched v w view r w' := by
  rintro ⟨-, es, view', htrace, hnone, -⟩
  obtain ⟨es', htrace', signal, hsignal⟩ := h
  cases List.append_cancel_left (htrace.symm.trans htrace')
  exact hnone signal hsignal

section

variable {R : Respond} (hR : Listening R) (hw : w.Reachable) (hview : w.views[v]? = some view)
  (hopen : view.closed = false) (hgroup : w.groups[view.group]? = some group)
  (hmembers : group.members ≠ []) (hm : Picks s m)

include hw hview hopen hgroup hmembers hm

theorem mutate_rejectedEarly (hearly : RejectedEarly w view s m) :
    ∃ r w', (mutate (announceView R) v m).runIn w = some (r, w') ∧ Untouched v w view r w' := by
  obtain ⟨hidle, -⟩ := hw.idle hview
  obtain ⟨e, u, hu, hbad, htrace, hviewu⟩ := perform_rejectedEarly (a := announceView R)
    (begun_view (m := m) hview) hgroup hm hearly
  have hrun : (mutate (announceView R) v m).runIn w = some (.error e, settle v (u.record
      (.failed v m e (u.views[v]?.map View.sight != some view.sight)))) := by
    rw [mutate_runIn hview hopen hgroup hmembers hidle, hu]
    rfl
  generalize (u.views[v]?.map View.sight != some view.sight) = partway at hrun
  refine ⟨_, _, hrun, ⟨e, rfl, hbad⟩, [.begun v m, .failed v m e partway], _, ?_, ?_,
    settle_record_view hviewu _, ⟨rfl, rfl, rfl, rfl, rfl, rfl, rfl, rfl, rfl⟩⟩
  · rw [settle, World.modifyView, World.record, htrace, begun, World.record, List.append_assoc]
    rfl
  · simp

include hR

/-- A call that is not rejected early emits a signal, changes what is shown, or fails otherwise. -/
theorem mutate_later (hs : s ∉ group.members) (hlate : ¬ RejectedEarly w view s m)
    {r : Except Failure Unit} {w' : World}
    (hrun : (mutate (announceView R) v m).runIn w = some (r, w')) : ¬ Untouched v w view r w' := by
  obtain ⟨hidle, -⟩ := hw.idle hview
  have ha := hR.announceView_framed v
  have hends := perform_later ha (fun n _ _ h => signals_announceView hR n h) (begun_view hview) rfl
    (begun_sound (m := m) hw.sound) hgroup hs hm hlate
  rw [mutate_runIn hview hopen hgroup hmembers hidle] at hrun
  obtain ⟨⟨outcome, u⟩, hu, hrest⟩ := Option.bind_eq_some_iff.1 hrun
  cases outcome with
  | ok x =>
    have hsignals : Signals w u := (hends.1 x u hu).after ⟨[.begun v m], rfl⟩
    obtain ⟨⟨outcome, u'⟩, hu', hsettled⟩ := Option.map_eq_some_iff.1 hrest
    cases hsettled
    have hT := carries_framed ha
    have hdrained : Framed (some v) u u' :=
      (drain_within hT.chains hT.takeWaiting hT.carryOut).of_runIn hu'
    exact not_untouched_of_signals (hsignals.grows (hdrained.trans (settle_framed u')).grows)
  | error e =>
    cases hrest
    rintro ⟨⟨e', he', hbad⟩, es, view', -, -, hview', hsame⟩
    cases he'
    obtain ⟨x, hx, hchanged⟩ := hends.2 e u hu hbad
    cases hview'.symm.trans (settle_record_view hx _)
    exact hchanged (SameShown.of_dispatch hsame)

theorem mutate_absent (hs : s ∉ group.members) (habsent : s ∉ view.graphs)
    {r : Except Failure Unit} {w' : World}
    (hrun : (mutate (announceView R) v m).runIn w = some (r, w')) :
    (∃ e, r = .error e) ∧ (view.hides = true →
      (view.graphs ≠ [] → ∃ first, w.firstGraph view = .ok first) →
      ∃ view', w'.views[v]? = some view' ∧ view'.hideDuplicates = .bool false ∧
        view'.graphs = group.members) := by
  obtain ⟨hidle, -⟩ := hw.idle hview
  have hends := perform_absent (hR.announceView_framed v) (begun_view (m := m) hview) rfl hgroup hs
    hm (Sequence.indexOf?_eq_none.2 habsent)
  rw [mutate_runIn hview hopen hgroup hmembers hidle] at hrun
  obtain ⟨⟨outcome, u⟩, hu, hrest⟩ := Option.bind_eq_some_iff.1 hrun
  cases outcome with
  | ok x => exact (hends.1 x u hu).elim
  | error e =>
    cases hrest
    refine ⟨⟨e, rfl⟩, fun hhides hfirst => ?_⟩
    obtain hshown | ⟨hgraphs, he⟩ | ⟨x, hx, -, hhide, hgraphs⟩ := hends.2 e u hu
    · exact absurd (hshown.symm.trans hhides) Bool.false_ne_true
    · obtain ⟨first, hok⟩ := hfirst hgraphs
      cases he.symm.trans hok
    · exact ⟨_, settle_record_view hx _, hhide, hgraphs⟩

end

/-- A snapshot that the group of a view does not hold is selected, alone or for a comparison. That
the call fails because a value was not accepted, emits no signal and leaves what is shown as it was
is the case if and only if it is rejected early. If the snapshot is not visible, the call fails in
any case, and shows the duplicates if they were hidden and it can be told what to select then. -/
theorem untouched_iff_rejectedEarly {R : Respond} (hR : Listening R) (hw : w.Reachable)
    (hview : w.views[v]? = some view) (hopen : view.closed = false)
    (hgroup : w.groups[view.group]? = some group) (hmembers : group.members ≠ [])
    (hs : s ∉ group.members) (hm : Picks s m) :
    ((∃ r w', (mutate (announceView R) v m).runIn w = some (r, w') ∧ Untouched v w view r w') ↔
      RejectedEarly w view s m) ∧
    (s ∉ view.graphs → ∀ r w', (mutate (announceView R) v m).runIn w = some (r, w') →
      (∃ e, r = .error e) ∧ (view.hides = true →
        (view.graphs ≠ [] → ∃ first, w.firstGraph view = .ok first) →
        ∃ view', w'.views[v]? = some view' ∧ view'.hideDuplicates = .bool false ∧
          view'.graphs = group.members)) := by
  refine ⟨⟨fun ⟨r, w', hrun, huntouched⟩ => ?_, fun hearly => ?_⟩, fun habsent r w' hrun => ?_⟩
  · exact Classical.byContradiction fun hlate =>
      mutate_later hR hw hview hopen hgroup hmembers hm hs hlate hrun huntouched
  · exact mutate_rejectedEarly hw hview hopen hgroup hmembers hm hearly
  · exact mutate_absent hR hw hview hopen hgroup hmembers hm hs habsent hrun

/-- A group of three snapshots, of which the second is a duplicate, and a snapshot of no group. -/
def withForeign : World :=
  let s : Snapshot := { id := 0, name := "s", blocks := .ofList [("b", {})], group := some 0 }
  { snapshots :=
      [s, { s with properties := .ofList [(Snapshot.duplicateProperty, .text "true")] }, s,
        { s with group := none }]
    pool := [0, 1, 2, 3], groups := [⟨"g", [0, 1, 2]⟩], chains := [[], []] }

theorem initial_withForeign : Initial withForeign where
  sound := ⟨by decide, by decide, by simp [withForeign]⟩
  views := rfl
  trace := rfl

/-- A view on the third snapshot of `withForeign`. -/
def foreignBeside (hide : Bool) : World :=
  (withForeign.run [.openView 2 0 1 none false (.bool hide)]).getD {}

theorem reachable_foreignBeside (hide : Bool) : (foreignBeside hide).Reachable :=
  initial_withForeign.reachable (by cases hide <;> decide +kernel)

theorem foreignBeside_view (hide : Bool) : ∃ view, (foreignBeside hide).views[0]? = some view ∧
    view.closed = false ∧ (foreignBeside hide).groups[view.group]? = some ⟨"g", [0, 1, 2]⟩ ∧
    view.hides = hide ∧ 3 ∉ view.graphs := by
  have h : (foreignBeside hide).views[0]?.map (fun view =>
      (view.closed, view.group, view.hides, decide (3 ∉ view.graphs))) =
      some (false, 0, hide, true) := by cases hide <;> decide +kernel
  obtain ⟨view, hview, hfields⟩ := Option.map_eq_some_iff.1 h
  simp only [Prod.mk.injEq, decide_eq_true_eq] at hfields
  obtain ⟨hopen, hgroup, hhides, habsent⟩ := hfields
  refine ⟨view, hview, hopen, ?_, hhides, habsent⟩
  rw [hgroup]
  cases hide <;> rfl

theorem untouched_iff_rejectedEarly_shown : ∃ view, (foreignBeside false).views[0]? = some view ∧
    ∃ r w', (mutate (announceView fun _ w => some w) 0 (.selectDifference 3)).runIn
      (foreignBeside false) = some (r, w') ∧ Untouched 0 (foreignBeside false) view r w' := by
  obtain ⟨view, hview, hopen, hgroup, hshown, habsent⟩ := foreignBeside_view false
  obtain ⟨hiff, -⟩ := untouched_iff_rejectedEarly listening_unheard (reachable_foreignBeside false)
    hview hopen hgroup (s := 3) (m := .selectDifference 3) (by decide) (by decide) (.inr rfl)
  refine ⟨view, hview, hiff.2 ?_⟩
  unfold RejectedEarly
  rw [Sequence.indexOf?_eq_none.2 habsent]
  exact .inl hshown

/-- When the snapshot of no group is selected, the duplicate is shown and the window moves. -/
theorem foreignBeside_select :
    ((mutate (announceView fun _ w => some w) 0 (.selectGraph 3)).runIn (foreignBeside true)).any
      (fun p => ∃ view ∈ p.2.views[0]?, view.hides = false ∧ view.graphs = [0, 1, 2] ∧
        view.window = ⟨2, 2⟩) = true := by
  unfold mutate runChange
  simp only [drain_eq_drainFirst _ _ 3]
  decide +kernel

/-- The selection of a snapshot of no group shows the duplicates before it fails. -/
theorem touched_by_foreign : ¬ ∀ (R : Respond) (w : World) (v : ViewRef) (view : View)
    (group : Group) (s : SnapshotRef) (m : Mutation), Listening R → w.Reachable →
    w.views[v]? = some view → view.closed = false → w.groups[view.group]? = some group →
    group.members ≠ [] → s ∉ group.members → Picks s m →
    ∃ r w', (mutate (announceView R) v m).runIn w = some (r, w') ∧ Untouched v w view r w' := by
  intro hall
  obtain ⟨view, hview, hopen, hgroup, hhides, -⟩ := foreignBeside_view true
  obtain ⟨r, w', hrun, -, es, view', -, -, hview', hsame⟩ := hall _ _ 0 view _ 3 (.selectGraph 3)
    listening_unheard (reachable_foreignBeside true) hview hopen hgroup (by decide) (by decide)
    (.inl rfl)
  obtain ⟨p, hp, hseen⟩ := Option.any_eq_true _ _ |>.1 foreignBeside_select
  cases hrun.symm.trans hp
  obtain ⟨x, hx, hshown, -⟩ := of_decide_eq_true hseen
  cases hview'.symm.trans hx
  rw [hides, ← hsame.hideDuplicates] at hhides
  exact absurd (hshown.symm.trans hhides) Bool.false_ne_true

end View

end SnapshotViewer
