import Mathlib.Data.List.Nodup
import SnapshotViewer.Proofs.View.ForeignSelection
import SnapshotViewer.Proofs.View.KeptSelection

/-!
# Losing the anchor of a comparison

A view that follows a change of its group moves its window back to the entry at the low bound. If
that entry is gone, the window stays where it was and is only pulled inside the visible snapshots,
which have moved under it. The entry at the high bound is looked for too, but not used. Main
statement: `perform_losesAnchor` says where the window is then, and when it still has the other
entry of the comparison at a bound. It need not: see `unrelated_after_removal`.
-/

namespace SnapshotViewer

/-- An entry is at a bound of a window that was pulled inside the entries if and only if it is at
one of the old bounds, or is the last entry and not behind the old window. -/
theorem Window.clamp_bounds_iff {window : Window} {size p : Nat} (hlow : 0 ≤ window.low)
    (hordered : window.low ≤ window.high) (hp : p < size) :
    ((window.clamp size).low = p ∨ (window.clamp size).high = p) ↔
      window.low = p ∨ window.high = p ∨ p + 1 = size ∧ p ≤ window.high := by
  simp only [Window.clamp]
  omega

theorem Window.fitsIn_clamp {window : Window} {size : Nat} (hlow : 0 ≤ window.low)
    (hordered : window.low ≤ window.high) (hsize : 0 < size) : (window.clamp size).FitsIn size := by
  simp only [Window.clamp, Window.FitsIn]
  omega

/-- Of entries that are all different, one that was behind one that is removed moves up by one. -/
theorem Sequence.getElem?_erase_iff {α : Type} [DecidableEq α] {entries : List α} {low high : α}
    {i j p : Nat} (hnodup : entries.Nodup) (hi : entries[i]? = some low)
    (hj : entries[j]? = some high) (hij : i < j) :
    (entries.erase low)[p]? = some high ↔ p + 1 = j := by
  obtain ⟨hlt, rfl⟩ := List.getElem?_eq_some_iff.1 hi
  have hunique (q : Nat) (hq : entries[q]? = some high) : q = j :=
    (List.getElem?_inj (List.getElem?_eq_some_iff.1 hq).1 hnodup).1 (hq.trans hj.symm)
  rw [hnodup.erase_getElem i hlt, List.getElem?_eraseIdx]
  split
  · constructor
    · intro hp
      have := hunique p hp
      omega
    · omega
  · constructor
    · exact hunique _
    · rintro rfl
      exact hj

namespace View

open World

variable {R : Respond} {a : Announce} {v : ViewRef} {w w' : World} {view view' : View}
  {group : Group} {members : List SnapshotRef} {low high : SnapshotRef}

/-- The window has an entry at one of its bounds. -/
def BoundedBy (view : View) (r : SnapshotRef) : Prop :=
  view.itemAt? view.window.low = some r ∨ view.itemAt? view.window.high = some r

/-- Nothing but duplicates is left of what the view shows, so that they are shown. -/
def OnlyDuplicates (w : World) (view : View) (members : List SnapshotRef) : Prop :=
  (view.hides && members.all w.isDuplicate) = true

instance (w : World) (view : View) (members : List SnapshotRef) :
    Decidable (OnlyDuplicates w view members) := inferInstanceAs (Decidable (_ = _))

/-- What a view shows when it has followed its group. -/
def shownAfter (w : World) (view : View) (members : List SnapshotRef) : List SnapshotRef :=
  Sequence.visible w.isDuplicate (view.hides && !members.all w.isDuplicate) members

/-- What becomes of the window of a comparison whose low entry is gone. -/
structure LosesAnchor (w : World) (view : View) (members : List SnapshotRef)
    (low high : SnapshotRef) (view' : View) : Prop where
  graphs : view'.graphs = shownAfter w view members
  /-- The window goes to the start if duplicates are shown because there is nothing else, and stays
  where it was otherwise, pulled inside the visible snapshots. -/
  window : view'.window =
    if OnlyDuplicates w view members then ⟨0, 0⟩ else view.window.clamp view'.graphs.length
  /-- It denotes two unrelated snapshots if and only if the high entry is at none of its bounds. -/
  unrelated_iff : ∀ x y, view'.Denotes x y →
    ((x ≠ low ∧ x ≠ high ∧ y ≠ low ∧ y ≠ high) ↔ ¬ BoundedBy view' high)
  /-- The high entry is at a bound if it has come to where the low one was, if it has stayed, or if
  it is the last one now. -/
  bounded_iff : ¬ OnlyDuplicates w view members → (BoundedBy view' high ↔
    ∃ p : Nat, view'.graphs[p]? = some high ∧ (view.window.low = p ∨ view.window.high = p ∨
      p + 1 = view'.graphs.length ∧ p ≤ view.window.high))
  /-- If only the low entry is gone, of snapshots that are all different, the two had to be next to
  each other, or the high one had to be the last one. -/
  removed_iff : ¬ OnlyDuplicates w view members → low ≠ high → view.graphs.Nodup →
    view'.graphs = view.graphs.erase low → (BoundedBy view' high ↔
      view.window.high = view.window.low + 1 ∨ view.window.high + 1 = view.graphs.length)

/-! ## Where the window is -/

theorem keepOn_gone {lowTarget : Option SnapshotRef} (hview : w.views[v]? = some view)
    (hgone : lowTarget.bind (Sequence.indexOf? view.graphs) = none)
    (highTarget : Option SnapshotRef) :
    (keepOn v lowTarget highTarget).runIn w = some (.ok (), w) := by
  unfold keepOn
  rw [Act.runIn_bind_ok (Act.runIn_view hview), hgone]
  exact Act.runIn_pure () w

theorem keepsGraphs_setSelectedNodes (ha : ∀ n w w', a v n w = some w' → Framed none w w')
    (ids : NodeSet) : (setSelectedNodes a v ids).Within (KeepsGraphs v) := by
  unfold setSelectedNodes
  refine (Act.within_get chains_keepsGraphs).bind chains_keepsGraphs fun u => ?_
  refine Act.Within.bind chains_keepsGraphs ?_ fun _ => ?_
  · exact fun w => Act.ends_modifyView.2 fun x hx hbusy =>
      ⟨_, views_modifyView_self hx _, hbusy, rfl, rfl, rfl⟩
  · exact (keepsGraphs_announce ha _).bind chains_keepsGraphs fun _ => keepsGraphs_announce ha _

/-- Once the window is where it will be, showing it does not move it. -/
theorem keepsGraphs_shown (ha : ∀ n w w', a v n w = some w' → Framed none w w') :
    Act.Within (KeepsGraphs v) (do
      announceKept a v (← windowMoved a v)
      setSelectedNodes a v (← Act.view v).selectedNodes) := by
  refine (keepsGraphs_windowMoved ha).bind chains_keepsGraphs fun replaced => ?_
  refine (keepsGraphs_announceKept ha replaced).bind chains_keepsGraphs fun _ => ?_
  exact (Act.within_view chains_keepsGraphs v).bind chains_keepsGraphs fun _ =>
    keepsGraphs_setSelectedNodes ha _

/-- A view whose low entry is gone shows what is visible, and its window is only pulled inside. -/
theorem groupChanged_window (ha : ∀ n w w', a v n w = some w' → Framed none w w')
    (hview : w.views[v]? = some view) (hbusy : view.busy = true)
    (hgroup : w.groups[view.group]? = some group) (hmembers : group.members ≠ [])
    (hlow : view.itemAt? view.window.low = some low) (hgone : low ∉ shownAfter w view group.members)
    {Q : World → Prop} (hQ : ∀ u view', u.views[v]? = some view' →
      view'.graphs = shownAfter w view group.members → view'.graphs ≠ [] →
      view'.window = (if OnlyDuplicates w view group.members then
        (view.window.clamp 0).clamp view'.graphs.length
        else view.window.clamp view'.graphs.length) → Q u) :
    (groupChanged a v).Ends w (fun _ u => Q u) fun _ u => Q u := by
  unfold groupChanged
  rw [Act.ends_bind, Act.ends_of_ok (Act.runIn_view hview)]
  refine (refilterShowing_ends hview hgroup hmembers).bind fun _ w₁ ⟨es₁, view₁, h₁⟩ => ?_
  have hhides : view₁.hides = (view.hides && !group.members.all w.isDuplicate) := by
    rw [hides, h₁.hideDuplicates]
    by_cases hnone : (view.hides && group.members.all w.isDuplicate) = true
    · rw [if_pos hnone, (Bool.and_eq_true_iff.1 hnone).2]
      exact (Bool.and_false _).symm
    · rw [if_neg hnone]
      change view.hides = _
      cases hhide : view.hides <;> simp_all
  have hgraphs : view₁.graphs = shownAfter w view group.members := by
    rw [h₁.graphs, hhides, shownAfter]
  have hnone : (some low).bind (Sequence.indexOf? view₁.graphs) = none :=
    Sequence.indexOf?_eq_none.2 (hgraphs ▸ hgone)
  rw [hlow, Act.ends_bind, Act.ends_of_ok (keepOn_gone h₁.found hnone _)]
  have hend (u : World) (hkept : KeepsGraphs v w₁ u) : Q u := by
    obtain ⟨x, hx, -, -, hsame, hwindow⟩ := hkept view₁ h₁.found (h₁.busy.trans hbusy)
    refine hQ u x hx (hsame.trans hgraphs) (hsame ▸ h₁.nonempty) ?_
    rw [hwindow, hsame]
    exact h₁.window
  exact (keepsGraphs_shown ha w₁).mono (fun _ u h => hend u h) fun _ u h => hend u h

/-! ## What is at its bounds -/

/-- What is at the bounds of a window that fits is at positions. -/
theorem boundedBy_iff (hfits : view.window.FitsIn view.graphs.length) {r : SnapshotRef} :
    BoundedBy view r ↔ ∃ p : Nat, view.graphs[p]? = some r ∧
      (view.window.low = p ∨ view.window.high = p) := by
  obtain ⟨hlow, hordered, -⟩ := hfits
  constructor
  · rintro (h | h)
    · exact ⟨_, h, .inl (by omega)⟩
    · exact ⟨_, h, .inr (by omega)⟩
  · rintro ⟨p, hp, h | h⟩
    · exact .inl (by rw [h]; exact hp)
    · exact .inr (by rw [h]; exact hp)

/-! ## The change -/

/-- A view that shows what is visible and whose window was only pulled inside has lost its
anchor. -/
theorem losesAnchor_of_window (hdenotes : view.Denotes low high)
    (hfits : view.window.FitsIn view.graphs.length) (hgone : low ∉ shownAfter w view members)
    (hgraphs : view'.graphs = shownAfter w view members) (hnonempty : view'.graphs ≠ [])
    (hwindow : view'.window = if OnlyDuplicates w view members then
      (view.window.clamp 0).clamp view'.graphs.length
      else view.window.clamp view'.graphs.length) : LosesAnchor w view members low high view' := by
  obtain ⟨hlow, hordered, hhigh⟩ := hfits
  have hsize : 0 < view'.graphs.length := List.length_pos_iff.2 hnonempty
  have hbounds (hsome : ¬ OnlyDuplicates w view members) : BoundedBy view' high ↔
      ∃ p : Nat, view'.graphs[p]? = some high ∧ (view.window.low = p ∨ view.window.high = p ∨
        p + 1 = view'.graphs.length ∧ p ≤ view.window.high) := by
    rw [if_neg hsome] at hwindow
    rw [boundedBy_iff (hwindow ▸ Window.fitsIn_clamp hlow hordered hsize), hwindow]
    refine exists_congr fun p => and_congr_right fun hp => ?_
    exact Window.clamp_bounds_iff hlow hordered (List.getElem?_eq_some_iff.1 hp).1
  refine ⟨hgraphs, hwindow.trans ?_, fun x y hd => ?_, hbounds, fun hsome hne hnodup herase => ?_⟩
  · split
    · simp only [Window.clamp, Window.mk.injEq]
      omega
    · rfl
  · have hmem {r : SnapshotRef} {i : Int} (h : view'.itemAt? i = some r) : r ≠ low := by
      rintro rfl
      exact hgone (hgraphs ▸ mem_of_itemAt? h)
    simp only [BoundedBy, hd.1, hd.2, Option.some_inj, not_or]
    exact ⟨fun h => ⟨h.2.1, h.2.2.2⟩, fun h => ⟨hmem hd.1, h.1, hmem hd.2, h.2⟩⟩
  · -- the high entry has moved up by one
    have hlt : view.window.low.toNat < view.window.high.toNat := by
      refine Nat.lt_of_le_of_ne (Int.toNat_le_toNat hordered) fun heq => hne ?_
      have hsame := hdenotes.1.symm.trans ((congrArg (view.graphs[·]?) heq).trans hdenotes.2)
      exact Option.some_inj.1 hsame
    have hmoved (p : Nat) : view'.graphs[p]? = some high ↔ p + 1 = view.window.high.toNat := by
      rw [herase]
      exact Sequence.getElem?_erase_iff hnodup hdenotes.1 hdenotes.2 hlt
    have hlength : view'.graphs.length = view.graphs.length - 1 := by
      rw [herase]
      exact List.length_erase_of_mem (mem_of_itemAt? hdenotes.1)
    rw [hbounds hsome]
    simp only [hmoved]
    constructor
    · rintro ⟨p, hp, h⟩
      omega
    · intro h
      exact ⟨view.window.high.toNat - 1, by omega, by omega⟩

/-- When the low entry of a comparison is gone, the window is pulled inside the visible snapshots,
whether the change goes through or fails, and whatever listeners do meanwhile. -/
theorem perform_losesAnchor {r : Except Failure Unit} (hR : Listening R)
    (hview : w.views[v]? = some view) (hbusy : view.busy = true)
    (hgroup : w.groups[view.group]? = some group) (hmembers : group.members ≠ [])
    (hfits : view.window.FitsIn view.graphs.length) (hdenotes : view.Denotes low high)
    (hgone : low ∉ shownAfter w view group.members)
    (h : (perform (announceView R) v .groupChanged).runIn w = some (r, w')) :
    ∃ view', w'.views[v]? = some view' ∧ LosesAnchor w view group.members low high view' := by
  have ha : ∀ n u u', announceView R v n u = some u' → Framed none u u' :=
    hR.announceView_framed v
  have hends := groupChanged_window ha hview hbusy hgroup hmembers hdenotes.1 hgone
    (Q := fun u => ∃ view', u.views[v]? = some view' ∧
      LosesAnchor w view group.members low high view')
    fun u view' hview' hgraphs hnonempty hwindow => ⟨view', hview',
      losesAnchor_of_window hdenotes hfits hgone hgraphs hnonempty hwindow⟩
  cases r with
  | ok x => exact hends.1 x w' h
  | error e => exact hends.2 e w' h

/-! ## A comparison of which nothing is left -/

/-- A group of four snapshots, and one of no group. -/
def withFour : World :=
  let s : Snapshot := { id := 0, name := "s", blocks := .ofList [("b", {})], group := some 0 }
  { snapshots := [s, s, s, s, { s with group := none }], pool := [0, 1, 2, 3, 4]
    groups := [⟨"g", [0, 1, 2, 3]⟩], chains := [[], []] }

theorem initial_withFour : Initial withFour where
  sound := ⟨by decide, by decide, by simp [withFour]⟩
  views := rfl
  trace := rfl

/-- A view on the first snapshot of `withFour`. -/
def fourShown : World :=
  (withFour.run [.openView 0 0 1 (some .byComponent) false (.bool false)]).getD {}

theorem reachable_fourShown : fourShown.Reachable := initial_withFour.reachable (by decide +kernel)

/-- The third snapshot is compared with the first one, and the first one is removed. -/
theorem fourShown_compare_remove :
    ((View.mutate (announceView fun _ w => some w) 0 (.selectDifference 2)).runIn fourShown).any
      (fun p => p.2.budget = 0 ∧ p.2.pool[0]? = some 0 ∧
        (beginsAmong [1, 2, 3] p.2).groups.map (·.members) = [[1, 2, 3]] ∧
        (∃ view ∈ p.2.views[0]?, view.closed = false ∧ view.group = 0 ∧ view.hides = false ∧
          view.graphs = [0, 1, 2, 3] ∧ view.window = ⟨0, 2⟩) ∧
        ((perform (announceView fun _ w => some w) 0 .groupChanged).runIn
          (beginsAmong [1, 2, 3] p.2)).isSome = true ∧
        ((Act.removeMember (fun _ w => some w) 0 0).runIn p.2).any (fun q =>
          ∃ view ∈ q.2.views[0]?, view.graphs = [1, 2, 3] ∧ view.window = ⟨0, 2⟩) = true) =
      true := by
  unfold Act.removeMember Act.announce announceShared follow View.mutate runChange
  simp only [drain_eq_drainFirst _ _ 3]
  decide +kernel

/-- The third snapshot of `withFour` is compared with the first one. -/
theorem reachable_fourCompared {r : Except Failure Unit}
    (h : (View.mutate (announceView fun _ w => some w) 0 (.selectDifference 2)).runIn fourShown =
      some (r, w)) : w.Reachable := by
  refine reachable_fourShown.execute (c := .selectDifference 0 2) (r := r.map fun _ => .done)
    (by decide +kernel) ?_
  have hplace : fourShown.pool[2]? = some 2 := by decide +kernel
  rw [Command.execute, Act.runIn_bind_ok (Command.runIn_pooled hplace), Command.runIn_change, h]
  rfl

/-- When the first of four snapshots leaves the group, a comparison of the third with it becomes one
of the second with the fourth. -/
theorem perform_losesAnchor_removed : ∃ (w w' : World) (view view' : View) (group : Group)
    (r : Except Failure Unit), w.views[0]? = some view ∧ w.groups[view.group]? = some group ∧
      view.graphs = [0, 1, 2, 3] ∧ group.members = [1, 2, 3] ∧ view.Denotes 0 2 ∧
      (perform (announceView fun _ w => some w) 0 .groupChanged).runIn w = some (r, w') ∧
      w'.views[0]? = some view' ∧ LosesAnchor w view group.members 0 2 view' ∧
      ¬ BoundedBy view' 2 := by
  obtain ⟨⟨r, w⟩, hrun, hseen⟩ := Option.any_eq_true _ _ |>.1 fourShown_compare_remove
  obtain ⟨-, -, hmembers, ⟨view, hview, -, hgroup, hshown, hgraphs, hwindow⟩, hperformed, -⟩ :=
    of_decide_eq_true hseen
  obtain ⟨⟨r', w'⟩, hrun'⟩ := Option.isSome_iff_exists.1 hperformed
  obtain ⟨group, hgroup', hgroupMembers⟩ :=
    group_of_members (g := view.group) hmembers (by rw [hgroup]; rfl)
  have hbegun : (beginsAmong [1, 2, 3] w).views[0]? = some { view with busy := true } :=
    views_modifyView_self (w := w.modifyGroup 0 _) hview _
  have hfits : view.window.FitsIn view.graphs.length := by
    rw [hwindow, hgraphs]
    exact ⟨by decide, by decide, by decide⟩
  have hdenotes : view.Denotes 0 2 := by
    rw [Denotes, itemAt?, itemAt?, hwindow, hgraphs]
    decide
  have hall (u : World) : shownAfter u { view with busy := true } group.members = [1, 2, 3] := by
    have hnone : hides { view with busy := true } = false := hshown
    rw [shownAfter, hnone, hgroupMembers]
    rfl
  obtain ⟨view', hview', hloses⟩ := perform_losesAnchor listening_unheard hbegun rfl hgroup'
    (by simp [hgroupMembers]) hfits hdenotes (by rw [hall]; decide) hrun'
  have hsome : ¬ OnlyDuplicates (beginsAmong [1, 2, 3] w) { view with busy := true }
      group.members := by
    have hnone : hides { view with busy := true } = false := hshown
    simp [OnlyDuplicates, hnone]
  refine ⟨_, w', _, view', group, r', hbegun, hgroup', hgraphs, hgroupMembers, hdenotes, hrun',
    hview', hloses, ?_⟩
  rw [hloses.removed_iff hsome (by decide) (by rw [hgraphs]; decide)
    (by rw [hloses.graphs, hall, hgraphs]; rfl), hwindow, hgraphs]
  decide

/-- A comparison is moved to two other snapshots when its low entry is removed. -/
theorem unrelated_after_removal : ¬ ∀ (w w' : World) (v : ViewRef) (view view' : View)
    (g : GroupRef) (place : Nat) (low high : SnapshotRef) (r : Except Failure Reply),
    w.Reachable → w.views[v]? = some view → view.closed = false → view.group = g →
    view.Denotes low high → low ≠ high → w.pool[place]? = some low →
    w.perform (.removeMember g place) = some (r, w') → w'.views[v]? = some view' →
    low ∉ view'.graphs → high ∈ view'.graphs → BoundedBy view' high := by
  intro hall
  obtain ⟨⟨r, w⟩, hrun, hseen⟩ := Option.any_eq_true _ _ |>.1 fourShown_compare_remove
  obtain ⟨hbudget, hplace, -, ⟨view, hview, hopen, hgroup, -, hgraphs, hwindow⟩, -, hremoved⟩ :=
    of_decide_eq_true hseen
  obtain ⟨⟨r', w'⟩, hrun', hafter⟩ := Option.any_eq_true _ _ |>.1 hremoved
  obtain ⟨view', hview', hgraphs', hwindow'⟩ := of_decide_eq_true hafter
  have hperformed : w.perform (.removeMember 0 0) = some (r'.map fun _ => .done, w') := by
    rw [World.perform, hbudget]
    change (Command.execute _ _).runIn w = _
    rw [Command.execute, Act.runIn_bind_ok (Command.runIn_pooled hplace), Act.runIn_bind, hrun']
    cases r' <;> rfl
  have hbounded := hall w w' 0 view view' 0 0 0 2 _ (reachable_fourCompared hrun) hview hopen hgroup
    (by rw [Denotes, itemAt?, itemAt?, hwindow, hgraphs]; decide) (by decide) hplace hperformed
    hview' (by rw [hgraphs']; decide) (by rw [hgraphs']; decide)
  rw [BoundedBy, itemAt?, itemAt?, hwindow', hgraphs'] at hbounded
  exact absurd hbounded (by decide)

end View

end SnapshotViewer
