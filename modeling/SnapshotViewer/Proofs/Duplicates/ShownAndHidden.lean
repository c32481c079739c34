import SnapshotViewer.Proofs.Duplicates.HiddenComparison
import SnapshotViewer.Proofs.Duplicates.ShowOrHide

/-!
# Showing duplicates and hiding them again

While duplicates are shown or hidden, the entry at the low bound stays selected if it is no
duplicate (`Rests`), and it is selected alone then. So the second of two such calls finds it
selected and draws nothing anew, and neither does the first one if it was selected alone before
(`Rests.turns`). Main statement: `mutate_setHideDuplicates_twice`: a view that hides duplicates
shows the same as before once they were shown and hidden again.
-/

namespace SnapshotViewer.View

open World

variable {R : Respond} {a : Announce} {v : ViewRef} {w w₁ w₂ u : World} {view view' : View}
  {group : Group} {members : List SnapshotRef} {x : SnapshotRef} {m : Mutation} {hide : Bool}
  {i : Nat}

/-! ## Calls that nobody interferes with -/

/-- When the steps of a change are done, in a world `u`, nobody has interfered with it: the view is
open and nothing waits, the group holds the same as before, and no snapshot was edited. -/
structure Unhindered (v : ViewRef) (members : List SnapshotRef) (w u : World) : Prop where
  view : ∀ view, u.views[v]? = some view → view.closed = false ∧ view.pending = [] ∧
    ∃ group, u.groups[view.group]? = some group ∧ group.members = members
  unedited : ∃ es, u.trace = w.trace ++ es ∧ Unedited es

/-- The steps of a change come to an end, with a result or because building fails, and the outcome
satisfies `P`. If nobody has interfered, the call has the same outcome, in a world that
satisfies `Q`. -/
def Completes (R : Respond) (v : ViewRef) (m : Mutation) (members : List SnapshotRef) (w : World)
    (P : Except Failure Unit → Prop) (Q : World → Prop) : Prop :=
  ∃ r u, (perform (announceView R) v m).runIn (begun v m w) = some (r, u) ∧ P r ∧
    (∀ e, r = .error e → Unbuilt (announceView R) v (begun v m w) e u) ∧
    (Unhindered v members w u →
      ∃ w', (mutate (announceView R) v m).runIn w = some (r, w') ∧ Q w')

/-- What the steps of a change note and keep, from before the call. -/
theorem steps_begun (hR : Listening R) (h : Steps (announceView R) v (begun v m w) u) :
    ∃ es, u.trace = (begun v m w).trace ++ es ∧ u.trace = w.trace ++ ([.begun v m] ++ es) ∧
      SnapshotsKept ([.begun v m] ++ es) w u := by
  obtain ⟨es, hframe, -⟩ := h.frame (hR.announceView_framed v)
  have hbegun : SnapshotsKept [.begun v m] w (begun v m w) := .of_eq rfl
  exact ⟨es, hframe.trace, hframe.trace.trans (List.append_assoc ..),
    hbegun.trans hframe.snapshots⟩

/-- When the steps of a change are done and nothing waits, the call has their outcome. A failure is
noted. -/
theorem mutate_ends {r : Except Failure Unit} (hview : w.views[v]? = some view)
    (hopen : view.closed = false) (hgroup : w.groups[view.group]? = some group)
    (hmembers : group.members ≠ []) (hidle : view.busy = false)
    (hrun : (perform a v m).runIn (begun v m w) = some (r, u)) (hview' : u.views[v]? = some view')
    (hnothing : view'.pending = []) :
    ∃ es, (mutate a v m).runIn w = some (r, settle v (u.recordAll es)) ∧ Unedited es ∧
      ∀ n, heard v n es = 0 := by
  rw [mutate_runIn hview hopen hgroup hmembers hidle, hrun, Option.bind_some]
  cases r with
  | ok _ =>
    refine ⟨[], ?_, by simp [Unedited], fun _ => rfl⟩
    dsimp only
    rw [drain_of_nothing hview' hnothing]
    simp [World.recordAll]
  | error e => exact ⟨[_], rfl, by simp [Unedited], fun _ => rfl⟩

/-! ## Showing a snapshot alone -/

/-- To move the window to one position is to write it. -/
theorem setWindow_runIn (hview : w.views[v]? = some view) (hi : i < view.graphs.length) :
    (setWindow a v i i).runIn w =
      (windowMoved a v).runIn (w.modifyView v fun view => { view with window := ⟨i, i⟩ }) := by
  unfold setWindow
  rw [Act.runIn_bind_ok (Act.runIn_view hview), Window.ofBounds_single hi,
    Act.runIn_bind_ok (Act.runIn_ofExcept_ok _ w), Act.runIn_bind_ok (Act.runIn_modifyView v _ w)]

/-- The view with `x` selected alone, and with duplicates shown or hidden. -/
def alone (w : World) (hide : Bool) (members : List SnapshotRef) (i : Nat) (x : SnapshotRef)
    (diagram : Option Diagram) (view : View) : View :=
  { toggled w hide members i view with selection := some ⟨x, x, x⟩, diagram }

theorem alone_settled {diagram : Option Diagram} (hopen : view.closed = false)
    (hidle : view.busy = false) (hnothing : view.pending = []) :
    { toggled w hide members i { view with busy := true } with
      selection := some ⟨x, x, x⟩, diagram, closed := false, pending := [], busy := false } =
      alone w hide members i x diagram view := by
  cases view
  cases hopen
  cases hidle
  cases hnothing
  rfl

/-- A view shows the graph of `x`. If it was shown before, the diagram is the same, and no graph was
announced. -/
def ShowsAlone (v : ViewRef) (x : SnapshotRef) (w : World) (view : View) (u : World) : Prop :=
  ∃ diagram closed pending, u.views[v]? =
      some { view with selection := some ⟨x, x, x⟩, diagram, closed, pending } ∧
    (view.selection = some ⟨x, x, x⟩ → diagram = view.diagram ∧
      ∃ es, u.trace = w.trace ++ es ∧ heard v .graphChanged es = 0)

/-- A view shows the graph of `x`, and its window resolves to it. -/
def ResolvedAlone (v : ViewRef) (x : SnapshotRef) (view : View) (u : World) : Prop :=
  ∃ diagram closed pending, u.views[v]? =
      some { view with selection := some ⟨x, x, x⟩, diagram, closed, pending } ∧
    Resolved u { view with selection := some ⟨x, x, x⟩, diagram, closed, pending }

theorem selection_alone {s : Selection} (hfirst : s.first = x) (hsecond : s.second = x)
    (hsingle : s.first = s.second → s.graph = s.first) : s = ⟨x, x, x⟩ := by
  cases s
  cases hfirst
  cases hsecond
  cases hsingle rfl
  rfl

theorem knows_alone_iff (hsound : SoundView w view) :
    view.knows x x = true ↔ view.selection = some ⟨x, x, x⟩ := by
  constructor
  · intro hknows
    obtain ⟨s, hs, hfirst, hsecond⟩ := selection_of_knows hknows
    rw [hs, selection_alone hfirst hsecond (hsound.selection s hs).single]
  · exact fun hs => (knows_iff hs x x).2 ⟨rfl, rfl⟩

section

variable (ha : ∀ n w w', a v n w = some w' → ∃ es, Undisturbed v es (w.noteReading v n) w')

include ha

/-- A window that resolves to what is shown is announced, and nothing is drawn. -/
theorem windowMoved_known (hview : w.views[v]? = some view) (hbusy : view.busy = true)
    (hselection : view.selection = some ⟨x, x, x⟩) (hfirst : w.firstGraph view = .ok x)
    (hsecond : w.secondGraph view = .ok x) :
    (do announceKept a v (← windowMoved a v) : Act Unit).Ends w
      (fun _ u => ShowsAlone v x w view u) fun _ _ => False := by
  have hresolved : Resolved w view := ⟨_, hselection, hfirst, hsecond⟩
  have hknows : view.knows x x = true := (knows_iff hselection x x).2 ⟨rfl, rfl⟩
  have hkept : (showWindow a v).Ends w (fun replaced u => replaced = false ∧ u = w)
      fun _ _ => False :=
    ends_showWindow_of_ok hview hfirst hsecond (fun _ => ⟨rfl, rfl⟩)
      fun hunknown => nomatch hknows.symm.trans hunknown
  have hmoved : (windowMoved a v).Ends w (fun replaced u => replaced = false ∧
      ∃ es closed pending, Presents v [.windowChanged] es w view u { view with closed, pending } ∧
        Resolved u { view with closed, pending }) fun _ _ => False := by
    unfold windowMoved
    refine hkept.bind fun replaced w₁ h => ?_
    obtain ⟨rfl, rfl⟩ := h
    refine (announce_presents ha .windowChanged hview hbusy hresolved).bind fun _ u h => ?_
    exact Act.ends_pure.2 ⟨rfl, h⟩
  refine hmoved.bind fun replaced u h => ?_
  obtain ⟨rfl, es, _, _, hp, hresolved'⟩ := h
  refine (announce_presents ha .diagramChanged hp.found hbusy hresolved').mono (fun _ u' h => ?_)
    fun _ _ h => h
  obtain ⟨es', closed, pending, hp', -⟩ := h
  refine ⟨view.diagram, closed, pending, ?_, fun _ => ⟨rfl, es ++ es', ?_⟩⟩
  · rw [← hselection]
    exact hp'.found
  · have hall := hp.trans hp'
    exact ⟨hall.trace, (hall.told .graphChanged).trans rfl⟩

/-- The graph for one snapshot is the snapshot. If it cannot be drawn, it is selected
nevertheless. -/
theorem showEnds_alone (hview : w.views[v]? = some view) (hbusy : view.busy = true)
    (hfirst : w.firstGraph view = .ok x) (hsecond : w.secondGraph view = .ok x) :
    (showEnds a v x x).Ends w (fun _ u => ResolvedAlone v x view u)
      fun _ u => u.views[v]? = some { view with selection := some ⟨x, x, x⟩ } := by
  have hdrawn (w₀ : World) (hview₀ : w₀.views[v]? = some { view with selection := some ⟨x, x, x⟩ })
      (hresolved₀ : Resolved w₀ { view with selection := some ⟨x, x, x⟩ }) :
      (do draw v x; announce a v .graphChanged; announce a v .diagramChanged : Act Unit).Ends w₀
        (fun _ u => ResolvedAlone v x view u)
        fun _ u => u.views[v]? = some { view with selection := some ⟨x, x, x⟩ } := by
    refine Act.Ends.bind ((draw_ends hview₀ x).mono (fun _ _ h => h) fun _ u h => h ▸ hview₀)
      fun _ w₁ h => ?_
    obtain ⟨d, es, hview₁, -, hkept⟩ := h
    have hresolved₁ : Resolved w₁ { view with selection := some ⟨x, x, x⟩, diagram := some d } :=
      hresolved₀.mono hkept rfl rfl rfl
    refine (announce_presents ha _ hview₁ hbusy hresolved₁).bind fun _ w₂ h => ?_
    obtain ⟨_, _, _, hp, hresolved₂⟩ := h
    refine (announce_presents ha _ hp.found hbusy hresolved₂).mono (fun _ w₃ h => ?_) fun _ _ h => h
    obtain ⟨_, closed, pending, hp', hresolved₃⟩ := h
    exact ⟨some d, closed, pending, hp'.found, hresolved₃⟩
  unfold showEnds
  rw [Act.ends_bind, Act.ends_of_ok (Act.runIn_view hview), Act.ends_bind, Act.debug,
    Act.ends_record, Act.ends_bind, Act.currentGraph, if_pos rfl, Act.ends_pure, Act.ends_bind,
    Act.ends_modifyView]
  exact hdrawn _ (views_modifyView_self hview _) ⟨_, rfl, hfirst, hsecond⟩

/-- A window over one snapshot that is not shown yet is shown. -/
theorem showWindow_alone (hview : w.views[v]? = some view) (hbusy : view.busy = true)
    (hfirst : w.firstGraph view = .ok x) (hsecond : w.secondGraph view = .ok x)
    (hunknown : view.knows x x = false) :
    (showWindow a v).Ends w (fun replaced u => replaced = true ∧ ResolvedAlone v x view u)
      fun _ u => u.views[v]? = some { view with selection := some ⟨x, x, x⟩ } := by
  refine ends_showWindow_of_ok hview hfirst hsecond (fun hknows => ?_) fun _ => ?_
  · cases hunknown.symm.trans hknows
  · exact (showEnds_alone ha hview hbusy hfirst hsecond).mono (fun _ _ h => ⟨rfl, h⟩) fun _ _ h => h

/-- A window over one snapshot is shown and announced. If the snapshot cannot be drawn, it is
selected nevertheless. -/
theorem windowMoved_alone (hview : w.views[v]? = some view) (hbusy : view.busy = true)
    (hsound : SoundView w view) (hfirst : w.firstGraph view = .ok x)
    (hsecond : w.secondGraph view = .ok x) :
    (do announceKept a v (← windowMoved a v) : Act Unit).Ends w
      (fun _ u => ShowsAlone v x w view u)
      fun _ u => ShowsAlone v x w view u ∧ view.selection ≠ some ⟨x, x, x⟩ := by
  by_cases hselection : view.selection = some ⟨x, x, x⟩
  · exact (windowMoved_known ha hview hbusy hselection hfirst hsecond).mono (fun _ _ h => h)
      fun _ _ h => h.elim
  have hshown := showWindow_alone ha hview hbusy hfirst hsecond
    (Bool.eq_false_iff.2 (mt (knows_alone_iff hsound).1 hselection))
  have hmoved : (windowMoved a v).Ends w
      (fun replaced u => replaced = true ∧ ShowsAlone v x w view u)
      fun _ u => ShowsAlone v x w view u := by
    unfold windowMoved
    refine Act.Ends.bind (hshown.mono (fun _ _ h => h) fun _ u h => ?_) fun replaced w₁ h => ?_
    · exact ⟨_, _, _, h, fun hsame => absurd hsame hselection⟩
    · obtain ⟨rfl, diagram, closed, pending, hview₁, hresolved⟩ := h
      refine (announce_presents ha _ hview₁ hbusy hresolved).bind fun _ u h => ?_
      obtain ⟨_, _, _, hp, -⟩ := h
      exact Act.ends_pure.2 ⟨rfl, _, _, _, hp.found, fun hsame => absurd hsame hselection⟩
  refine Act.Ends.bind (hmoved.mono (fun _ _ h => h) fun _ _ h => ⟨h, hselection⟩) fun _ u h => ?_
  obtain ⟨rfl, h⟩ := h
  exact Act.ends_pure.2 h

end

/-! ## The steps of showing or hiding duplicates -/

theorem captured_alone (hcaptured : w.Captured members) (hx : x ∈ members) :
    w.Captured [x, x] := by
  intro r hr
  obtain rfl : r = x := by simpa using hr
  exact hcaptured r hx

/-- The view is refiltered first, and its window is moved then. -/
theorem modifyView_toggled (v : ViewRef) (w : World) (hide : Bool) (members : List SnapshotRef)
    (i : Nat) :
    (w.modifyView v (refiltered w (.bool hide) members)).modifyView v
      (fun view => { view with window := ⟨i, i⟩ }) = w.modifyView v (toggled w hide members i) :=
  congrArg (fun views => { w with views }) (List.modify_modify_eq ..)

theorem steps_toggled (hview : w.views[v]? = some view)
    (hgroup : w.groups[view.group]? = some group)
    (hfits : Window.FitsIn ⟨i, i⟩ (Sequence.visible w.isDuplicate hide group.members).length) :
    Steps a v w (w.modifyView v (toggled w hide group.members i)) := by
  have hrefiltered : Steps a v w (w.modifyView v (refiltered w (.bool hide) group.members)) :=
    (Steps.refl w).write _ fun x hx => by
      cases hview.symm.trans hx
      exact .refilter _ hgroup
  rw [← modifyView_toggled]
  refine hrefiltered.write _ fun x hx => ?_
  cases (views_modifyView_self hview _).symm.trans hx
  exact .move ⟨i, i⟩ hfits

section

variable (h : Ready v w view group) (hlow : view.itemAt? view.window.low = some x)
  (hmem : x ∈ group.members) (hfresh : w.isDuplicate x = false)

include h hlow hmem hfresh

/-- An entry at the low bound that is no duplicate is selected then. -/
theorem targetOf_fresh (hide : Bool) : (targetOf v hide).runIn w = some (.ok x, w) := by
  rw [h.targetOf hlow]
  cases hide with
  | false => exact Act.runIn_ofExcept_ok x w
  | true =>
    rw [if_pos rfl, Sequence.resolveUnhidden_fresh w.nameOf hmem hfresh]
    exact Act.runIn_ofExcept_ok x w

/-- Duplicates are shown or hidden, and the window is moved to it. -/
theorem perform_setHideDuplicates_runIn (hnew : view.hideDuplicates.sameBool hide = false)
    (hi : Sequence.indexOf? (Sequence.visible w.isDuplicate hide group.members) x = some i) :
    (perform a v (.setHideDuplicates hide)).runIn w =
      (do announceKept a v (← windowMoved a v) : Act Unit).runIn
        (w.modifyView v (toggled w hide group.members i)) := by
  have hselect : SelectsVisible a v (if hide then selectGraph a v else selectVisible a v) := by
    cases hide
    · exact selectsVisible_selectVisible
    · exact selectsVisible_selectGraph
  have hgraphs := List.ne_nil_of_mem (mem_of_itemAt? hlow)
  have htarget := targetOf_fresh h hlow hmem hfresh hide
  refine (toggleDuplicates_selects hselect hnew h.found h.grouped hgraphs htarget hi).trans ?_
  have hrefiltered := views_modifyView_self h.found (refiltered w (.bool hide) group.members)
  rw [Act.runIn_bind, setWindow_runIn hrefiltered (lt_of_indexOf? hi), modifyView_toggled,
    ← Act.runIn_bind]

/-- It is selected alone, unless it cannot be drawn. -/
theorem perform_setHideDuplicates_alone
    (ha : ∀ n w w', a v n w = some w' → ∃ es, Undisturbed v es (w.noteReading v n) w')
    (hsound : ∀ n w w', a v n w = some w' → Sound w → Sound w')
    (hnew : view.hideDuplicates.sameBool hide = false)
    (hi : Sequence.indexOf? (Sequence.visible w.isDuplicate hide group.members) x = some i) :
    (perform a v (.setHideDuplicates hide)).Ends w
      (fun _ u => ShowsAlone v x w (toggled w hide group.members i view) u)
      fun e u => (ShowsAlone v x w (toggled w hide group.members i view) u ∧
        view.selection ≠ some ⟨x, x, x⟩) ∧ Unbuilt a v w e u := by
  have hentry : (Sequence.visible w.isDuplicate hide group.members)[i]? = some x :=
    Sequence.getElem?_of_indexOf? hi
  have hfits : Window.FitsIn ⟨i, i⟩ (Sequence.visible w.isDuplicate hide group.members).length :=
    Window.fitsIn_of_ofBounds
      (Window.ofBounds_single (List.getElem?_eq_some_iff.1 hentry).1)
  have hview := views_modifyView_self h.found (toggled w hide group.members i)
  have hsteps : Steps a v w (w.modifyView v (toggled w hide group.members i)) :=
    steps_toggled h.found h.grouped hfits
  have hdenotes : (toggled w hide group.members i view).Denotes x x := ⟨hentry, hentry⟩
  obtain ⟨hfirst, hsecond⟩ := hdenotes.ends (captured_alone h.captured_members hmem) hfits
  have hunbuilt : (do announceKept a v (← windowMoved a v) : Act Unit).Ends
      (w.modifyView v (toggled w hide group.members i)) (fun _ _ => True) (Unbuilt a v w) :=
    Act.Ends.bind ((windowMoved_unbuilt hview hfits).mono (fun _ _ h => h) fun _ _ he =>
      he.after hsteps) fun replaced u _ => by
        cases replaced
        · exact announce_succeeds _ u
        · exact Act.ends_pure.2 trivial
  have hshown := windowMoved_alone ha hview h.busy ((hsteps.sound hsound h.sound).view hview)
    hfirst hsecond
  unfold Act.Ends
  rw [perform_setHideDuplicates_runIn h hlow hmem hfresh hnew hi]
  exact (hshown.and hunbuilt).mono (fun _ _ h => h.1) fun _ _ h => h

end

/-! ## Showing or hiding duplicates -/

/-- Between changes an open view shows what is visible of a group of captured snapshots, and the
entry at its low bound is no duplicate. -/
structure Rests (v : ViewRef) (w : World) (view : View) (group : Group) (x : SnapshotRef) :
    Prop where
  found : w.views[v]? = some view
  isOpen : view.closed = false
  grouped : w.groups[view.group]? = some group
  idle : view.busy = false
  nothingWaits : view.pending = []
  sound : Sound w
  captured : w.Captured group.members
  graphs : view.graphs = Sequence.visible w.isDuplicate view.hides group.members
  low : view.itemAt? view.window.low = some x
  fresh : w.isDuplicate x = false

/-- A call has shown or hidden duplicates, with `es` noted meanwhile, and has selected `x` alone. If
`x` was selected alone before, nothing was drawn, and no graph was announced. -/
structure Turned (v : ViewRef) (hide : Bool) (x : SnapshotRef) (w : World) (view : View)
    (group : Group) (es : List Event) (w' : World) (view' : View) (group' : Group) : Prop where
  shown : ∃ i diagram,
    Sequence.indexOf? (Sequence.visible w.isDuplicate hide group.members) x = some i ∧
      view' = alone w hide group.members i x diagram view
  rests : Rests v w' view' group' x
  members : group'.members = group.members
  trace : w'.trace = w.trace ++ es
  unedited : Unedited es
  snapshots : SnapshotsKept es w w'
  kept : view.selection = some ⟨x, x, x⟩ →
    view'.diagram = view.diagram ∧ heard v .graphChanged es = 0

namespace Rests

variable (h : Rests v w view group x)

include h

theorem mem_graphs : x ∈ view.graphs := mem_of_itemAt? h.low

theorem mem : x ∈ group.members := by
  have hvisible := h.mem_graphs
  rw [h.graphs] at hvisible
  exact List.mem_of_mem_filter hvisible

theorem ready (m : Mutation) : Ready v (begun v m w) { view with busy := true } group where
  found := begun_view h.found
  busy := rfl
  grouped := h.grouped
  sound := begun_sound h.sound
  members r hr := h.captured.isDifference hr
  graphs r hr := by
    have hvisible : r ∈ view.graphs := hr
    rw [h.graphs] at hvisible
    exact h.captured.isDifference (List.mem_of_mem_filter hvisible)

theorem firstGraph : w.firstGraph view = .ok x := by
  have hsound := h.sound.view h.found
  have hfits : view.window.FitsIn view.graphs.length :=
    ⟨hsound.low, hsound.ordered, hsound.high (List.ne_nil_of_mem h.mem_graphs)⟩
  exact (firstGraph_of_low h.low hfits w).trans (h.captured.unwrap h.mem true)

/-- The entry at the low bound is visible whether duplicates are hidden or not. -/
theorem indexOf? (hide : Bool) :
    ∃ i, Sequence.indexOf? (Sequence.visible w.isDuplicate hide group.members) x = some i :=
  Sequence.indexOf?_of_mem (List.mem_filter.2 ⟨h.mem, by simp [h.fresh]⟩)

/-- What is left of a call whose steps are done in a world `u` with nobody interfering. -/
theorem settled {es : List Event} {diagram : Option Diagram} {closed : Bool}
    {pending : List Mutation} (hR : Listening R)
    (hsteps : Steps (announceView R) v (begun v (.setHideDuplicates hide) w) u)
    (hun : Unhindered v group.members w u)
    (hview : u.views[v]? = some { toggled w hide group.members i { view with busy := true } with
      selection := some ⟨x, x, x⟩, diagram, closed, pending })
    (hi : Sequence.indexOf? (Sequence.visible w.isDuplicate hide group.members) x = some i)
    (hquiet : view.selection = some ⟨x, x, x⟩ → diagram = view.diagram ∧
      ∃ es, u.trace = (begun v (.setHideDuplicates hide) w).trace ++ es ∧
        heard v .graphChanged es = 0)
    (hes : Unedited es) (hnone : heard v .graphChanged es = 0) :
    ∃ es' group', Turned v hide x w view group es' (settle v (u.recordAll es))
      (alone w hide group.members i x diagram view) group' := by
  obtain ⟨hclosed, hpending, group', hgroup', hmembers⟩ := hun.view _ hview
  dsimp only at hclosed hpending
  subst hclosed hpending
  obtain ⟨es₀, htrace₀, htrace, hstored⟩ := steps_begun hR hsteps
  have hunedited : Unedited ([.begun v (.setHideDuplicates hide)] ++ es₀) := by
    obtain ⟨es₁, htrace₁, hes₁⟩ := hun.unedited
    exact List.append_cancel_left (htrace.symm.trans htrace₁) ▸ hes₁
  have hes' : Unedited ([.begun v (.setHideDuplicates hide)] ++ es₀ ++ es) := fun r hr =>
    (List.mem_append.1 hr).elim (hunedited r) (hes r)
  have hended : SnapshotsKept es u (settle v (u.recordAll es)) := .of_eq rfl
  have hkept := hstored.trans hended
  have hsame : (settle v (u.recordAll es)).isDuplicate = w.isDuplicate := hkept.isDuplicate hes'
  refine ⟨_, group', ⟨i, diagram, hi, rfl⟩, ?_, hmembers, ?_, hes', hkept, fun hselection => ?_⟩
  · obtain ⟨hsound, hcaptured⟩ := hsteps.keepsCaptured hR (begun_sound h.sound) h.captured
    have hsound' : Sound (u.recordAll es) :=
      chains_sound.recordAll (fun e _ w hw => hw.record e) u hsound
    refine ⟨?_, h.isOpen, hgroup', h.idle, h.nothingWaits, hsound'.dispatch v fun _ => rfl,
      hmembers ▸ hcaptured, ?_, Sequence.getElem?_of_indexOf? hi, hsame ▸ h.fresh⟩
    · rw [← alone_settled h.isOpen h.idle h.nothingWaits]
      exact views_modifyView_self hview _
    · rw [hsame, hmembers]
      cases hide <;> rfl
  · exact (congrArg (· ++ es) htrace).trans (List.append_assoc ..)
  · obtain ⟨hdiagram, es₁, htrace₁, hquiet₁⟩ := hquiet hselection
    obtain rfl : es₀ = es₁ := List.append_cancel_left (htrace₀.symm.trans htrace₁)
    refine ⟨hdiagram, ?_⟩
    rw [heard_append, heard_append, hquiet₁, hnone]
    rfl

/-- Showing or hiding duplicates selects the entry at the low bound alone. If it was so before, the
call does not fail. -/
theorem turns (hR : Listening R) (hhalts : ∀ k u, (R k u).isSome = true)
    (hnew : view.hideDuplicates.sameBool hide = false) :
    Completes R v (.setHideDuplicates hide) group.members w
      (fun r => view.selection = some ⟨x, x, x⟩ → r = .ok ())
      fun w' => ∃ es view' group', Turned v hide x w view group es w' view' group' := by
  obtain ⟨i, hi⟩ := h.indexOf? hide
  have hends := perform_setHideDuplicates_alone (a := announceView R)
    (h.ready (.setHideDuplicates hide)) h.low h.mem h.fresh (Listening.announces_undisturbed hR)
    (announceView_sound (fun k u u' hu => (hR k u u' hu).sound) v) hnew hi
  obtain ⟨⟨r, u⟩, hrun⟩ := Option.isSome_iff_exists.1
    (halts_perform (fun n x => isSome_announceView hhalts v n x) (.setHideDuplicates hide)
      (begun v (.setHideDuplicates hide) w))
  have hshown : ShowsAlone v x (begun v (.setHideDuplicates hide) w)
      (toggled w hide group.members i { view with busy := true }) u := by
    cases r with
    | ok _ => exact hends.1 _ u hrun
    | error e => exact (hends.2 e u hrun).1.1
  refine ⟨r, u, hrun, fun hselection => ?_, ?_, fun hun => ?_⟩
  · cases r with
    | ok _ => rfl
    | error e => exact absurd hselection (hends.2 e u hrun).1.2
  · rintro e rfl
    exact (hends.2 e u hrun).2
  · obtain ⟨diagram, closed, pending, hview, hquiet⟩ := hshown
    obtain ⟨-, hpending, -⟩ := hun.view _ hview
    obtain ⟨es, hmutate, hes, hnone⟩ := mutate_ends h.found h.isOpen h.grouped
      (List.ne_nil_of_mem h.mem) h.idle hrun hview hpending
    have hsteps := (steps_perform (a := announceView R) (.setHideDuplicates hide)).of_runIn hrun
    obtain ⟨es', group', hturned⟩ := h.settled hR hsteps hun hview hi hquiet hes (hnone _)
    exact ⟨_, hmutate, es', _, group', hturned⟩

end Rests

/-! ## Showing and hiding again -/

theorem Completes.mono {P P' : Except Failure Unit → Prop} {Q Q' : World → Prop}
    (h : Completes R v m members w P Q) (hP : ∀ r, P r → P' r) (hQ : ∀ w', Q w' → Q' w') :
    Completes R v m members w P' Q' := by
  obtain ⟨r, u, hrun, hr, hunbuilt, hreturns⟩ := h
  refine ⟨r, u, hrun, hP r hr, hunbuilt, fun hun => ?_⟩
  obtain ⟨w', hmutate, hw'⟩ := hreturns hun
  exact ⟨w', hmutate, hQ w' hw'⟩

theorem toggled_eq_visible (w : World) (hide : Bool) (members : List SnapshotRef) (i : Nat)
    (view : View) :
    toggled w hide members i view = { view with
      hideDuplicates := .bool hide
      graphs := Sequence.visible w.isDuplicate hide members
      positions := (Sequence.visible w.isDuplicate hide members).map w.nameOf
      colors := Highlight.colors view.selectedNodes.toList
        (w.contents (Sequence.visible w.isDuplicate hide members))
      window := ⟨i, i⟩ } := by
  cases hide <;> rfl

/-- What is derived from the visible snapshots stays the same while nothing is edited. -/
theorem toggled_congr {es : List Event} (hkept : SnapshotsKept es w w₁) (hes : Unedited es)
    (hstored : ∀ r ∈ members, r < w.snapshots.length) :
    toggled w₁ hide members i view = toggled w hide members i view := by
  have hvisible : ∀ r ∈ Sequence.visible w.isDuplicate hide members, r < w.snapshots.length :=
    fun r hr => hstored r (List.mem_of_mem_filter hr)
  have hpositions : (Sequence.visible w.isDuplicate hide members).map w₁.nameOf =
      (Sequence.visible w.isDuplicate hide members).map w.nameOf :=
    List.map_congr_left fun r hr => hkept.nameOf (hvisible r hr)
  have hcolors := Highlight.colors_congr view.selectedNodes.toList
    (hkept.contents hes hvisible)
  rw [toggled_eq_visible, toggled_eq_visible, hkept.isDuplicate hes, hpositions, hcolors]

namespace Poised

variable (h : Poised v w view group) (hplain : ∀ r ∈ group.members, w.isDifference r = false)
  (hhides : view.hides = true)

include h hhides

/-- To hide duplicates where they are hidden, and to select what is selected alone, changes
nothing. -/
theorem toggled_hidden (hwindow : view.window = ⟨i, i⟩) :
    toggled w true group.members i view = { view with hideDuplicates := .bool true } := by
  have hgraphs := h.consistent.graphs
  rw [hhides] at hgraphs
  rw [toggled_eq_visible, ← hgraphs, ← h.consistent.positions, ← h.consistent.colors, ← hwindow]

include hplain

theorem rests : ∃ x, Rests v w view group x := by
  obtain ⟨x, -, hlow, -⟩ := entry_of_fits h.consistent.window
  have hvisible := mem_of_itemAt? hlow
  rw [h.consistent.graphs, hhides] at hvisible
  exact ⟨x, h.found, h.isOpen, h.grouped, h.idle, h.nothingWaits, h.sound, h.captured hplain,
    h.consistent.graphs, hlow, (Sequence.fresh_of_mem_visible hvisible).2⟩

omit hplain hhides in
/-- A window over one position is where its entry is, and the entry was selected alone. -/
theorem alone_of_single (hdistinct : group.members.Nodup) (hrests : Rests v w view group x)
    (hone : view.window.low = view.window.high) :
    view.selection = some ⟨x, x, x⟩ ∧ ∀ i, Sequence.indexOf? view.graphs x = some i →
      view.window = ⟨i, i⟩ := by
  have hdenotes : view.Denotes x x := ⟨hrests.low, hone ▸ hrests.low⟩
  have hfits := h.consistent.window
  obtain ⟨hfirst, hsecond⟩ := hdenotes.ends (captured_alone hrests.captured hrests.mem) hfits
  constructor
  · obtain ⟨s, hs, hfirst', hsecond', hgraph, -⟩ := h.consistent.graph
    have hx : s.first = x := Except.ok.inj (hfirst'.symm.trans hfirst)
    have hx' : s.second = x := Except.ok.inj (hsecond'.symm.trans hsecond)
    rw [hs, selection_alone hx hx' hgraph]
  · intro i hi
    have hlow := hdenotes.low_eq (h.consistent.graphs ▸ hdistinct.filter _) hfits
    rw [Sequence.indexOf?_eq_some_idxOf hrests.mem_graphs] at hi
    cases hi
    calc view.window = ⟨view.window.low, view.window.high⟩ := rfl
      _ = ⟨view.graphs.idxOf x, view.graphs.idxOf x⟩ := by rw [← hone, hlow]

end Poised

/-- A view shows in `w₂` what it has shown in `w`. If its window was a single position, nothing of
the view has changed, and no graph was announced meanwhile. -/
structure Restored (v : ViewRef) (w : World) (view : View) (w₂ : World) (view₂ : View) : Prop where
  hides : view₂.hideDuplicates = .bool true
  hideDuplicates : (∃ hide, view.hideDuplicates = .bool hide) →
    view₂.hideDuplicates = view.hideDuplicates
  graphs : view₂.graphs = view.graphs
  first : ∃ x, w.firstGraph view = .ok x ∧ w₂.firstGraph view₂ = .ok x
  single : view.window.low = view.window.high →
    view₂ = { view with hideDuplicates := .bool true } ∧
    ∃ es, w₂.trace = w.trace ++ es ∧ heard v .graphChanged es = 0

/-- What comes of showing duplicates and hiding them again. -/
theorem Poised.restored {es₁ es₂ : List Event} {view₁ view₂ : View} {group₁ group₂ : Group}
    (h : Poised v w view group) (hdistinct : group.members.Nodup) (hhides : view.hides = true)
    (hrests : Rests v w view group x)
    (h₁ : Turned v false x w view group es₁ w₁ view₁ group₁)
    (h₂ : Turned v true x w₁ view₁ group₁ es₂ w₂ view₂ group₂) : Restored v w view w₂ view₂ := by
  obtain ⟨i₁, diagram₁, -, hview₁⟩ := h₁.shown
  obtain ⟨i, diagram, hi, hview₂⟩ := h₂.shown
  have hstored := h.sound.members group (List.mem_of_getElem? h.grouped)
  have htoggled : toggled w₁ true group₁.members i view = toggled w true group.members i view := by
    rw [h₁.members, toggled_congr h₁.snapshots h₁.unedited hstored]
  -- the second call overwrites all that the first one has written
  have htwice : view₂ = { toggled w true group.members i view with
      selection := some ⟨x, x, x⟩, diagram } := by
    rw [hview₂, hview₁, ← htoggled]
    rfl
  have hvisible : Sequence.visible w.isDuplicate true group.members = view.graphs := by
    rw [h.consistent.graphs, hhides]
  have hselection₁ : view₁.selection = some ⟨x, x, x⟩ := by
    rw [hview₁]
    rfl
  have hsingle := h.alone_of_single hdistinct hrests
  refine ⟨?_, ?_, ?_, ⟨x, hrests.firstGraph, h₂.rests.firstGraph⟩, fun hone => ⟨?_, ?_⟩⟩
  · rw [htwice]
    rfl
  · rintro ⟨hide, hbool⟩
    rw [View.hides, hbool] at hhides
    cases hide with
    | true => rw [htwice, hbool]; rfl
    | false => cases hhides
  · rw [htwice]
    exact hvisible
  · have hposition : Sequence.indexOf? view.graphs x = some i := by
      rw [← hi, h₁.members, h₁.snapshots.isDuplicate h₁.unedited, hvisible]
    have hdiagram : diagram = view.diagram := by
      have hsame := (h₂.kept hselection₁).1.trans (h₁.kept (hsingle hone).1).1
      rw [htwice] at hsame
      exact hsame
    rw [htwice, h.toggled_hidden hhides ((hsingle hone).2 i hposition), hdiagram,
      ← (hsingle hone).1]
  · exact ⟨es₁ ++ es₂, by rw [h₂.trace, h₁.trace, List.append_assoc], by
      rw [heard_append, (h₁.kept (hsingle hone).1).2, (h₂.kept hselection₁).2]⟩

/-- Duplicates that are shown and hidden again are hidden as before. A view of distinct captured
snapshots shows the same as before then, unless somebody interferes. If its window was a single
position, both calls return. Else the first one can fail, because building fails, and the second
one restores the view all the same. -/
theorem mutate_setHideDuplicates_twice (hR : Listening R)
    (hhalts : ∀ k u, (R k u).isSome = true) (h : Poised v w view group)
    (hdistinct : group.members.Nodup) (hplain : ∀ r ∈ group.members, w.isDifference r = false)
    (hhides : view.hides = true) :
    Completes R v (.setHideDuplicates false) group.members w
      (fun r => view.window.low = view.window.high → r = .ok ()) fun w₁ =>
      (∃ view₁, w₁.views[v]? = some view₁ ∧ view₁.hideDuplicates = .bool false ∧
        view₁.graphs = group.members) ∧
      Completes R v (.setHideDuplicates true) group.members w₁ (fun r => r = .ok ()) fun w₂ =>
        ∃ view₂, w₂.views[v]? = some view₂ ∧ Restored v w view w₂ view₂ := by
  obtain ⟨x, hrests⟩ := h.rests hplain hhides
  have hsingle := h.alone_of_single hdistinct hrests
  refine (hrests.turns hR hhalts (Value.sameBool_false_of_isTrue hhides)).mono
    (fun r hr hone => hr (hsingle hone).1) fun w₁ h₁ => ?_
  obtain ⟨es₁, view₁, group₁, h₁⟩ := h₁
  obtain ⟨i₁, diagram₁, -, hshown₁⟩ := h₁.shown
  refine ⟨⟨view₁, h₁.rests.found, by rw [hshown₁]; rfl, ?_⟩, ?_⟩
  · rw [hshown₁]
    exact visible_false _ _
  have hselection₁ : view₁.selection = some ⟨x, x, x⟩ := by rw [hshown₁]; rfl
  have hnew₁ : view₁.hideDuplicates.sameBool true = false := by rw [hshown₁]; rfl
  rw [← h₁.members]
  refine (h₁.rests.turns hR hhalts hnew₁).mono (fun r hr => hr hselection₁) fun w₂ h₂ => ?_
  obtain ⟨es₂, view₂, group₂, h₂⟩ := h₂
  exact ⟨view₂, h₂.rests.found, h.restored hdistinct hhides hrests h₁ h₂⟩

/-- A world in which a change is done and in which it can be seen that nobody has interfered. -/
def Clear (v : ViewRef) (members : List SnapshotRef) (u : World) : Prop :=
  (∃ view ∈ u.views[v]?, view.closed = false ∧ view.pending = [] ∧
    (u.groups.map (·.members))[view.group]? = some members) ∧ Unedited u.trace

instance (v : ViewRef) (members : List SnapshotRef) (u : World) : Decidable (Clear v members u) :=
  inferInstanceAs (Decidable (_ ∧ _))

theorem Clear.unhindered {r : Except Failure Unit} (h : Clear v members u) (hR : Listening R)
    (hrun : (perform (announceView R) v m).runIn (begun v m w) = some (r, u)) :
    Unhindered v members w u := by
  obtain ⟨⟨view, hview, hopen, hnothing, hgroup⟩, hunedited⟩ := h
  rw [List.getElem?_map] at hgroup
  obtain ⟨group, hgroup, hmembers⟩ := Option.map_eq_some_iff.1 hgroup
  obtain ⟨es, -, htrace, -⟩ :=
    steps_begun hR ((steps_perform (a := announceView R) m).of_runIn hrun)
  refine ⟨fun view' hview' => ?_, _, htrace, (htrace ▸ hunedited).right⟩
  cases hview'.symm.trans hview
  exact ⟨hopen, hnothing, group, hgroup, hmembers⟩

theorem duplicateHidden_twice :
    ((perform (announceView fun _ w => some w) 0 (.setHideDuplicates false)).runIn
      (begun 0 (.setHideDuplicates false) duplicateHidden)).any
        (fun p => Clear 0 [0, 1, 2] p.2) = true ∧
    ((View.mutate (announceView fun _ w => some w) 0 (.setHideDuplicates false)).runIn
      duplicateHidden).any (fun p =>
        ((perform (announceView fun _ w => some w) 0 (.setHideDuplicates true)).runIn
          (begun 0 (.setHideDuplicates true) p.2)).any fun q => Clear 0 [0, 1, 2] q.2) = true ∧
    (∀ r ∈ [0, 1, 2], duplicateHidden.isDifference r = false) ∧
    (∃ view ∈ duplicateHidden.views[0]?, view.window.low = view.window.high) := by
  unfold View.mutate runChange
  simp only [drain_eq_drainFirst _ _ 3]
  decide +kernel

/-- In `duplicateHidden`, where one snapshot is hidden, it is shown and hidden again. -/
theorem mutate_setHideDuplicates_twice_hidden : ∃ (view view₂ : View) (group : Group)
    (w₁ w₂ : World), Poised 0 duplicateHidden view group ∧ group.members = [0, 1, 2] ∧
      view.graphs = [0, 2] ∧ view.hides = true ∧ view.window.low = view.window.high ∧
      (View.mutate (announceView fun _ w => some w) 0 (.setHideDuplicates false)).runIn
        duplicateHidden = some (.ok (), w₁) ∧
      (View.mutate (announceView fun _ w => some w) 0 (.setHideDuplicates true)).runIn w₁ =
        some (.ok (), w₂) ∧
      w₂.views[0]? = some view₂ ∧ view₂ = { view with hideDuplicates := .bool true } := by
  obtain ⟨view, group, hpoised, hmembers, hgraphs, hhides⟩ := poised_duplicateHidden
  obtain ⟨hfirst, hsecond, hplain, hone⟩ := duplicateHidden_twice
  obtain ⟨x, hx, hone⟩ := hone
  cases hx.symm.trans hpoised.found
  obtain ⟨r, u₁, hrun₁, hok₁, -, hreturns₁⟩ := mutate_setHideDuplicates_twice listening_unheard
    (fun _ _ => rfl) hpoised (hmembers ▸ by decide) (hmembers ▸ hplain) hhides
  rw [hrun₁] at hfirst
  have hclear₁ : Clear 0 [0, 1, 2] u₁ := of_decide_eq_true hfirst
  obtain ⟨w₁, hmutate₁, -, hcompletes⟩ :=
    hreturns₁ (hmembers ▸ hclear₁.unhindered listening_unheard hrun₁)
  obtain ⟨r₂, u₂, hrun₂, hok₂, -, hreturns₂⟩ := hcompletes
  rw [hmutate₁] at hsecond
  have hsecond : ((perform (announceView fun _ w => some w) 0 (.setHideDuplicates true)).runIn
      (begun 0 (.setHideDuplicates true) w₁)).any (fun q => Clear 0 [0, 1, 2] q.2) = true :=
    hsecond
  rw [hrun₂] at hsecond
  have hclear₂ : Clear 0 [0, 1, 2] u₂ := of_decide_eq_true hsecond
  obtain ⟨w₂, hmutate₂, view₂, hfound, hrestored⟩ :=
    hreturns₂ (hmembers ▸ hclear₂.unhindered listening_unheard hrun₂)
  rw [hok₁ hone] at hmutate₁
  rw [hok₂] at hmutate₂
  exact ⟨view, view₂, group, w₁, w₂, hpoised, hmembers, hgraphs, hhides, hone, hmutate₁, hmutate₂,
    hfound, (hrestored.single hone).1⟩

end SnapshotViewer.View
