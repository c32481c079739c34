import SnapshotViewer.Proofs.View.SelectedMember

/-!
# Showing and hiding the duplicates of a group

A call that shows or hides duplicates keeps selected what was (`StaysSelected`), or backs it up to a
snapshot that is no duplicate. Main statement: `mutate_setHideDuplicates`: such a call is refused,
and writes nothing, if there are only duplicates to hide; and else it leaves the view `Filtered`.
-/

namespace SnapshotViewer.View

open World

variable {R : Respond} {v : ViewRef} {w u : World} {view view' : View} {group : Group}
  {current : SnapshotRef} {m : Mutation} {hide : Bool}

/-- Duplicates are shown or hidden, in a world `u` that a change has led to from `w`. The diagram
and the window were announced once each, and another graph at most once. A view that is closed
meanwhile announces its window besides. -/
structure Filtered (v : ViewRef) (w : World) (view : View) (group : Group) (hide : Bool)
    (current : SnapshotRef) (u : World) (view' : View) : Prop where
  hideDuplicates : view'.hideDuplicates = .bool hide
  graphs : view'.graphs = Sequence.visible w.isDuplicate hide group.members
  window : ∃ (target : SnapshotRef) (i : Nat), keptBy w hide group.members current = .ok target ∧
    Sequence.indexOf? view'.graphs target = some i ∧ view'.window = ⟨i, i⟩
  announced : ∃ es, u.trace = w.trace ++ .begun v (.setHideDuplicates hide) :: es ∧
    heard v .diagramChanged es = 1 ∧ heard v .windowChanged es = 1 + closings v es ∧
    heard v .graphChanged es ≤ 1
  selectedNodes : view'.selectedNodes = view.selectedNodes
  hiddenNodes : view'.hiddenNodes = view.hiddenNodes
  toggles : view'.toggles = view.toggles

theorem toggling_told {replaced : Bool} {es : List Event} (h : Tallies v (toggling replaced) es) :
    heard v .diagramChanged es = 1 ∧ heard v .windowChanged es = 1 + closings v es ∧
      heard v .graphChanged es ≤ 1 := by
  rw [h .diagramChanged, h .windowChanged, h .graphChanged]
  cases replaced <;> simp [toggling, replacing]

/-- A call that is refused before anything is written leaves the world as it was. -/
theorem settle_refused (hview : w.views[v]? = some view) (hidle : view.busy = false)
    (hnothing : view.pending = []) (e : Event) :
    settle v ((begun v m w).record e) = { w with trace := w.trace ++ [.begun v m, e] } := by
  have hviews : (settle v ((begun v m w).record e)).views = w.views := by
    change (w.views.modify v _).modify v _ = w.views
    rw [List.modify_modify_eq]
    refine List.ext_getElem? fun x => ?_
    rw [List.getElem?_modify]
    split
    · rename_i hx
      subst hx
      rw [hview]
      cases view
      cases hidle
      cases hnothing
      rfl
    · exact id_map _
  have htrace : (settle v ((begun v m w).record e)).trace = w.trace ++ [.begun v m, e] :=
    List.append_assoc ..
  rw [← htrace]
  conv => rhs; rw [← hviews]
  rfl

/-- A group of duplicates has none that stays when they are hidden. -/
theorem Begins.keptBy_none (h : Begins v w view group)
    (hcurrent : StaysSelected w view group.members current)
    (hall : ∀ s ∈ group.members, w.isDuplicate s = true) :
    keptBy w true group.members current = .error .onlyDuplicates := by
  rw [keptBy, if_pos rfl]
  exact Sequence.resolveUnhidden_hidden w.nameOf (h.mem_of_stays hcurrent) hall

/-- Else what is selected then is shown. -/
theorem Begins.keptBy_visible (h : Begins v w view group)
    (hcurrent : StaysSelected w view group.members current)
    (hsome : hide = true → ∃ s ∈ group.members, w.isDuplicate s = false) :
    ∃ target i, keptBy w hide group.members current = .ok target ∧
      Sequence.indexOf? (Sequence.visible w.isDuplicate hide group.members) target = some i := by
  have hmem := h.mem_of_stays hcurrent
  cases hide with
  | false =>
    obtain ⟨i, hi⟩ := Sequence.indexOf?_of_mem hmem
    exact ⟨current, i, rfl, by rw [visible_false, hi]⟩
  | true =>
    obtain ⟨target, htarget⟩ := Sequence.resolveUnhidden_succeeds w.nameOf hmem (hsome rfl)
    obtain ⟨i, hi⟩ := Sequence.indexOf?_of_mem (Sequence.mem_visible_of_resolveUnhidden htarget)
    exact ⟨target, i, by rw [keptBy, if_pos rfl, htarget], hi⟩

/-- A call that shows or hides duplicates, and does not find the view so, is refused if all would be
hidden. Else it does so, unless building fails. -/
theorem mutate_setHideDuplicates (hR : Listening R) (hhalts : ∀ k u, (R k u).isSome = true)
    (h : Poised v w view group) (hnew : view.hideDuplicates.sameBool hide = false) :
    ∃ current, StaysSelected w view group.members current ∧
      (hide = true → (∀ s ∈ group.members, w.isDuplicate s = true) →
        (mutate (announceView R) v (.setHideDuplicates hide)).runIn w =
          some (.error .onlyDuplicates, { w with
            trace := w.trace ++ [.begun v (.setHideDuplicates hide),
              .failed v (.setHideDuplicates hide) .onlyDuplicates false] })) ∧
      ((hide = true → ∃ s ∈ group.members, w.isDuplicate s = false) →
        Answers R v (.setHideDuplicates hide) w (Filtered v w view group hide current)) := by
  have hbegins := h.begins (.setHideDuplicates hide)
  obtain ⟨current, hcurrent, hmem⟩ := hbegins.stays
  refine ⟨current, hcurrent, fun hhide hall => ?_, fun hsome => ?_⟩
  · subst hhide
    have hnew' : ({ view with busy := true } : View).hideDuplicates.sameBool true = false := hnew
    have hrefused : (perform (announceView R) v (.setHideDuplicates true)).runIn
        (begun v (.setHideDuplicates true) w) =
          some (.error .onlyDuplicates, begun v (.setHideDuplicates true) w) := by
      refine (toggleDuplicates_runIn hnew' hbegins.found hbegins.graphs_ne_nil).trans ?_
      refine Act.runIn_bind_error ?_
      rw [hbegins.targetOf hcurrent, hbegins.keptBy_none hcurrent hall]
      exact Act.runIn_ofExcept_error _ _
    rw [mutate_runIn h.found h.isOpen h.grouped h.members_ne_nil h.idle, hrefused, Option.bind_some]
    dsimp only
    rw [hbegins.found, settle_refused h.found h.idle h.nothingWaits]
    simp [sight]
  · refine h.answers hhalts ?_
    obtain ⟨target, i, htarget, hi⟩ := hbegins.keptBy_visible hcurrent hsome
    have hselected : (targetOf v hide).runIn (begun v (.setHideDuplicates hide) w) =
        some (.ok target, begun v (.setHideDuplicates hide) w) := by
      rw [hbegins.targetOf hcurrent, htarget]
      exact Act.runIn_ofExcept_ok _ _
    have hends : (perform (announceView R) v (.setHideDuplicates hide)).Ends
        (begun v (.setHideDuplicates hide) w) (fun _ u => ∃ replaced,
          Renewed (announceView R) v (toggling replaced) (begun v (.setHideDuplicates hide) w)
            (toggled (begun v (.setHideDuplicates hide) w) hide group.members i
              { view with busy := true }) u)
        (Unbuilt (announceView R) v (begun v (.setHideDuplicates hide) w)) := by
      refine toggleDuplicates_renews (Listening.announces_undisturbed hR) hbegins ?_ hnew hselected
        hi
      cases hide
      · exact selectsVisible_selectVisible
      · exact selectsVisible_selectGraph
    refine hends.mono (fun _ u hu => ?_) fun _ _ h => h
    obtain ⟨replaced, es, view', hp, -, -⟩ := hu
    refine ⟨view', hp.found, ?_⟩
    have htrace : u.trace = w.trace ++ .begun v (.setHideDuplicates hide) :: es :=
      hp.trace.trans (List.append_assoc ..)
    obtain ⟨selection, diagram, closed, pending, rfl⟩ := hp.shown
    exact ⟨rfl, rfl, ⟨target, i, htarget, hi, rfl⟩, ⟨es, htrace, toggling_told hp.told⟩, rfl, rfl,
      rfl⟩

theorem duplicateHidden_show :
    ((perform (announceView fun _ w => some w) 0 (.setHideDuplicates false)).runIn
      (begun 0 (.setHideDuplicates false) duplicateHidden)).any
        (fun p => p.1.toOption = some ()) = true := by
  decide +kernel

/-- The hidden snapshot of `duplicateHidden` is shown. -/
theorem mutate_setHideDuplicates_hidden : ∃ (view view' : View) (group : Group)
    (current : SnapshotRef) (u : World), Poised 0 duplicateHidden view group ∧
      view.hideDuplicates.sameBool false = false ∧
      StaysSelected duplicateHidden view group.members current ∧
      (perform (announceView fun _ w => some w) 0 (.setHideDuplicates false)).runIn
        (begun 0 (.setHideDuplicates false) duplicateHidden) = some (.ok (), u) ∧
      Filtered 0 duplicateHidden view group false current u view' ∧ view'.graphs = [0, 1, 2] := by
  obtain ⟨view, group, hpoised, hmembers, -, hhides⟩ := poised_duplicateHidden
  have hnew : view.hideDuplicates.sameBool false = false := Value.sameBool_false_of_isTrue hhides
  obtain ⟨p, hrun, hok⟩ := Option.any_eq_true _ _ |>.1 duplicateHidden_show
  obtain ⟨current, hcurrent, -, hanswers⟩ :=
    mutate_setHideDuplicates listening_unheard (fun _ _ => rfl) hpoised hnew
  cases hanswers nofun with
  | completed h hview hQ =>
    refine ⟨view, _, group, current, _, hpoised, hnew, hcurrent, h, hQ, ?_⟩
    rw [hQ.graphs, visible_false, hmembers]
  | unbuilt h =>
    cases h.symm.trans hrun
    cases of_decide_eq_true hok

end SnapshotViewer.View
