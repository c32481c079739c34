import SnapshotViewer.Proofs.View.SelectedMember

/-!
# Comparing with a hidden duplicate

A view that compares two snapshots is asked to compare with a third. If the third is visible, the
bound on its side of the anchor is moved to it. If it is hidden, showing duplicates selects the
anchor alone first, so that the snapshot at the high bound is lost. Main statements:
`mutate_selectDifference` says which two are compared then, and `mutate_selectDifference_agree_iff`
when it makes no difference whether duplicates were hidden.
-/

namespace SnapshotViewer

namespace Sequence

variable {α : Type} [DecidableEq α] {entries : List α} {x y : α}

/-- Leaving out entries keeps the order of the others. -/
theorem idxOf_filter_le_iff {p : α → Bool} (hx : p x = true) (hy : p y = true) :
    (entries.filter p).idxOf x ≤ (entries.filter p).idxOf y ↔
      entries.idxOf x ≤ entries.idxOf y := by
  induction entries with
  | nil => rfl
  | cons z rest ih =>
    by_cases hz : p z = true
    · rw [List.filter_cons_of_pos hz]
      by_cases hzx : z = x
      · simp [hzx]
      by_cases hzy : z = y
      · subst hzy
        simp [List.idxOf_cons_ne _ hzx]
      rw [List.idxOf_cons_ne _ hzx, List.idxOf_cons_ne _ hzy, List.idxOf_cons_ne _ hzx,
        List.idxOf_cons_ne _ hzy, Nat.succ_le_succ_iff, Nat.succ_le_succ_iff]
      exact ih
    · have hzx : z ≠ x := by rintro rfl; exact hz hx
      have hzy : z ≠ y := by rintro rfl; exact hz hy
      rw [List.filter_cons_of_neg hz, ih, List.idxOf_cons_ne _ hzx, List.idxOf_cons_ne _ hzy]
      exact Nat.succ_le_succ_iff.symm

end Sequence

namespace View

open World

variable {R R₁ R₂ : Respond} {v v₁ v₂ : ViewRef} {w w₁ w₂ u : World} {view view₁ view₂ base : View}
  {group group₁ group₂ : Group} {g x y : SnapshotRef} {window : Window} {i : Nat}

/-- A poised view of a group of distinct captured snapshots compares two of them. -/
structure Compares (v : ViewRef) (w : World) (view : View) (group : Group) (x y : SnapshotRef) :
    Prop where
  poised : Poised v w view group
  distinct : group.members.Nodup
  plain : ∀ r ∈ group.members, w.isDifference r = false
  denotes : view.Denotes x y

/-- The two that are compared when a view that compares `x` with `y` is to compare with `g`. -/
def comparedWith (w : World) (hidden : Bool) (members : List SnapshotRef) (x y g : SnapshotRef) :
    SnapshotRef × SnapshotRef :=
  if members.idxOf x ≤ members.idxOf g then (x, g)
  else (g, if hidden && w.isDuplicate g then x else y)

/-- In a list without repetitions the low bound is the position of its entry. -/
theorem Denotes.low_eq (hdenotes : view.Denotes x y) (hdistinct : view.graphs.Nodup)
    (hfits : view.window.FitsIn view.graphs.length) :
    view.window.low = view.graphs.idxOf x := by
  obtain ⟨hlt, hentry⟩ := List.getElem?_eq_some_iff.1 hdenotes.1
  rw [← hentry, hdistinct.idxOf_getElem _ hlt, Int.toNat_of_nonneg hfits.1]

theorem itemAt?_idxOf (hg : g ∈ view.graphs) : view.itemAt? (view.graphs.idxOf g) = some g :=
  Sequence.getElem?_of_indexOf? (Sequence.indexOf?_eq_some_idxOf hg)

/-- The bound on the side of an entry is moved to it, where the low bound is the anchor. -/
theorem Denotes.anchored (hdenotes : view.Denotes x y) (hdistinct : view.graphs.Nodup)
    (hfits : view.window.FitsIn view.graphs.length) (hg : g ∈ view.graphs)
    (hwindow : view.window.anchorTo (view.graphs.idxOf g) view.graphs.length = .ok window) :
    if view.graphs.idxOf x ≤ view.graphs.idxOf g then Denotes { view with window } x g
    else Denotes { view with window } g y := by
  have hlow := hdenotes.low_eq hdistinct hfits
  have hentry := itemAt?_idxOf hg
  unfold Window.anchorTo at hwindow
  split
  · rename_i hle
    rw [if_pos (by omega)] at hwindow
    cases Window.eq_of_ofBounds hwindow
    exact ⟨hdenotes.1, hentry⟩
  · rename_i hlt
    rw [if_neg (by omega)] at hwindow
    cases Window.eq_of_ofBounds hwindow
    exact ⟨hentry, hdenotes.2⟩

/-- Where a third snapshot is located, the anchor is at the low bound. It is at the high bound too
if the third one was hidden. -/
theorem Located.denotes (h : Begins v w view group) (hcaptured : w.Captured group.members)
    (hdenotes : view.Denotes x y) (hg : g ∈ group.members)
    (hlocated : Located w view group.members g base i) :
    base.Denotes x (if view.hides && w.isDuplicate g then x else y) ∧
      base.window.FitsIn base.graphs.length := by
  have hvisible : g ∈ view.graphs ↔ (view.hides && w.isDuplicate g) = false := by
    rw [h.graphs, Sequence.visible, List.mem_filter]
    cases view.hides <;> simp [hg]
  cases hlocated with
  | visible hi =>
    rw [hvisible.1 (List.mem_of_getElem? (Sequence.getElem?_of_indexOf? hi))]
    exact ⟨hdenotes, h.fits⟩
  | @hidden current _ j hnone hcurrent hj hi =>
    have hx : x ∈ group.members := h.mem_of_visible (mem_of_itemAt? hdenotes.1)
    obtain ⟨first, hfirst, hkept, -⟩ := hcurrent
    rw [firstGraph_of_low hdenotes.1 h.fits w, hcaptured.unwrap hx true] at hfirst
    cases hfirst
    rw [hkept hx] at hj
    rw [Bool.of_not_eq_false (mt hvisible.2 hnone), if_pos rfl]
    have hj' : Sequence.indexOf? (Sequence.visible w.isDuplicate false group.members) x =
        some j := by rw [visible_false, hj]
    have hentry := Sequence.getElem?_of_indexOf? hj'
    exact ⟨⟨hentry, hentry⟩,
      Window.fitsIn_of_ofBounds (Window.ofBounds_single (lt_of_indexOf? hj'))⟩

/-- The window that the third snapshot asks for where it is located. -/
theorem Located.compares (h : Begins v w view group) (hdistinct : group.members.Nodup)
    (hcaptured : w.Captured group.members) (hdenotes : view.Denotes x y) (hg : g ∈ group.members)
    (hlocated : Located w view group.members g base i)
    (hwindow : windowFor base i (.selectDifference g) = .ok window) :
    Denotes { base with window } (comparedWith w view.hides group.members x y g).1
      (comparedWith w view.hides group.members x y g).2 := by
  obtain ⟨hbase, hfits⟩ := hlocated.denotes h hcaptured hdenotes hg
  have hgraphs := hlocated.graphs h.graphs
  have hx : x ∈ base.graphs := mem_of_itemAt? hbase.1
  have hg' : g ∈ base.graphs :=
    List.mem_of_getElem? (Sequence.getElem?_of_indexOf? hlocated.indexOf?)
  have hi : i = base.graphs.idxOf g := Option.some_inj.1
    (hlocated.indexOf?.symm.trans (Sequence.indexOf?_eq_some_idxOf hg'))
  have hanchored := hbase.anchored (hgraphs ▸ hdistinct.filter _) hfits hg' (hi ▸ hwindow)
  -- among what is visible there, the two stand as they do in the group
  have hshown (r : SnapshotRef) (hr : r ∈ base.graphs) :
      (!(base.hides && w.isDuplicate r)) = true := by
    rw [hgraphs] at hr
    exact (List.mem_filter.1 hr).2
  have horder : base.graphs.idxOf x ≤ base.graphs.idxOf g ↔
      group.members.idxOf x ≤ group.members.idxOf g := by
    rw [hgraphs]
    exact Sequence.idxOf_filter_le_iff (hshown x hx) (hshown g hg')
  unfold comparedWith
  by_cases hle : group.members.idxOf x ≤ group.members.idxOf g
  · rw [if_pos hle]
    rwa [if_pos (horder.2 hle)] at hanchored
  · rw [if_neg hle]
    rwa [if_neg (mt horder.1 hle)] at hanchored

/-- A view that compares two snapshots is asked to compare with a third one. -/
theorem mutate_selectDifference (hR : Listening R) (hhalts : ∀ k u, (R k u).isSome = true)
    (h : Compares v w view group x y) (hg : g ∈ group.members) :
    Answers R v (.selectDifference g) w fun u view' =>
      u.ends view' = .ok (comparedWith w view.hides group.members x y g) := by
  refine h.poised.answers hhalts ?_
  have hbegins := h.poised.begins (.selectDifference g)
  have hcaptured : (begun v (.selectDifference g) w).Captured group.members :=
    h.poised.captured h.plain
  obtain ⟨base, i, window, hlocated, hwindow, hfits, hends⟩ :=
    perform_picks_renews (Listening.announces_undisturbed hR) hbegins hg (.inr rfl)
  have hcompares := hlocated.compares hbegins h.distinct hcaptured h.denotes hg hwindow
  refine hends.mono (fun _ u hu => ?_) fun _ _ h => h
  obtain ⟨ns, es, view', hp, -, hsteps⟩ := hu
  refine ⟨view', hp.found, ?_⟩
  have hdenotes' : view'.Denotes (comparedWith w view.hides group.members x y g).1
      (comparedWith w view.hides group.members x y g).2 := by
    unfold Denotes itemAt?
    rw [hp.graphs, hp.window]
    exact hcompares
  have hmem (r : SnapshotRef) (hr : r ∈ view'.graphs) : r ∈ group.members := by
    rw [hp.graphs, hlocated.graphs hbegins.graphs] at hr
    exact List.mem_of_mem_filter hr
  obtain ⟨-, hcaptured'⟩ := hsteps.keepsCaptured hR hbegins.sound hcaptured
  have hpair : ∀ r ∈ [(comparedWith w view.hides group.members x y g).1,
      (comparedWith w view.hides group.members x y g).2], r ∈ view'.graphs := by
    simp [mem_of_itemAt? hdenotes'.1, mem_of_itemAt? hdenotes'.2]
  obtain ⟨hfirst, hsecond⟩ := hdenotes'.ends (fun r hr => hcaptured' r (hmem r (hpair r hr)))
    (by rw [hp.graphs, hp.window]; exact hfits)
  exact ends_ok hfirst hsecond

/-- Two views compare the same two snapshots of the same group, and only one of them hides
duplicates. They compare the same two once they are asked to compare with a third one, unless this
is a duplicate that stands before both. -/
theorem mutate_selectDifference_agree_iff (hR₁ : Listening R₁) (hR₂ : Listening R₂)
    (hhalts₁ : ∀ k u, (R₁ k u).isSome = true) (hhalts₂ : ∀ k u, (R₂ k u).isSome = true)
    (h₁ : Compares v₁ w₁ view₁ group₁ x y) (h₂ : Compares v₂ w₂ view₂ group₂ x y)
    (hmembers : group₂.members = group₁.members)
    (hhides : view₁.hides = true) (hshows : view₂.hides = false) (hg : g ∈ group₁.members) :
    Answers R₁ v₁ (.selectDifference g) w₁
      (fun u view => u.ends view = .ok (comparedWith w₁ true group₁.members x y g)) ∧
    Answers R₂ v₂ (.selectDifference g) w₂
      (fun u view => u.ends view = .ok (comparedWith w₁ false group₁.members x y g)) ∧
    (comparedWith w₁ true group₁.members x y g = comparedWith w₁ false group₁.members x y g ↔
      ¬ (w₁.isDuplicate g = true ∧ group₁.members.idxOf g < group₁.members.idxOf x ∧ x ≠ y)) := by
  refine ⟨hhides ▸ mutate_selectDifference hR₁ hhalts₁ h₁ hg, ?_, ?_⟩
  · have hanswers := mutate_selectDifference hR₂ hhalts₂ h₂ (hmembers ▸ hg)
    rw [hshows, hmembers] at hanswers
    exact hanswers
  · unfold comparedWith
    by_cases hle : group₁.members.idxOf x ≤ group₁.members.idxOf g
    · rw [if_pos hle, if_pos hle]
      exact iff_of_true rfl fun hbefore => absurd hle (Nat.not_le.2 hbefore.2.1)
    · have hlt : group₁.members.idxOf g < group₁.members.idxOf x := by omega
      cases hdup : w₁.isDuplicate g <;> simp [hle, hlt]

/-- A view of a group that begins with a duplicate. -/
def duplicateFirst (hide : Bool) : World :=
  ({ withDuplicate with groups := [⟨"g", [1, 0, 2]⟩] }.run
    [.openView 0 0 1 (some .byComponent) false (.bool hide)]).getD {}

theorem reachable_duplicateFirst (hide : Bool) : (duplicateFirst hide).Reachable := by
  have hinitial : Initial { withDuplicate with groups := [⟨"g", [1, 0, 2]⟩] } :=
    ⟨⟨by decide, by decide, by simp [withDuplicate]⟩, rfl, rfl⟩
  exact hinitial.reachable (by cases hide <;> decide +kernel)

theorem duplicateFirst_compare (hide : Bool) :
    ((View.mutate (announceView fun _ w => some w) 0
      (.setWindow (if hide then 0 else 1) (if hide then 1 else 2))).runIn
      (duplicateFirst hide)).any (fun p =>
        failures 0 p.2.trace = [] ∧ Unedited p.2.trace ∧
        p.2.groups.map (·.members) = [[1, 0, 2]] ∧
        (∀ r ∈ [1, 0, 2], p.2.isDifference r = false ∧ p.2.isDuplicate r = (r == 1)) ∧
        (∃ view ∈ p.2.views[0]?, view.closed = false ∧ view.group = 0 ∧ view.hides = hide ∧
          view.itemAt? view.window.low = some 0 ∧ view.itemAt? view.window.high = some 2) ∧
        ((View.mutate (announceView fun _ w => some w) 0 (.selectDifference 1)).runIn p.2).any
          (fun q => q.1.toOption = some () ∧ ∃ view ∈ q.2.views[0]?,
            (q.2.ends view).toOption = some (1, if hide then 0 else 2)) = true) = true := by
  unfold View.mutate runChange
  simp only [drain_eq_drainFirst _ _ 3]
  cases hide <;> decide +kernel

/-- A session goes on from `duplicateFirst` by comparing the two snapshots that are no duplicates.
Then the view is asked to compare with the duplicate. -/
theorem compares_duplicateFirst (hide : Bool) : ∃ (w u : World) (view view' : View) (group : Group),
    w.Reachable ∧ Compares 0 w view group 0 2 ∧ group.members = [1, 0, 2] ∧ view.hides = hide ∧
      (∀ r ∈ group.members, w.isDuplicate r = (r == 1)) ∧
      (View.mutate (announceView fun _ w => some w) 0 (.selectDifference 1)).runIn w =
        some (.ok (), u) ∧
      u.views[0]? = some view' ∧ u.ends view' = .ok (1, if hide then 0 else 2) := by
  obtain ⟨⟨r, w⟩, hrun, hseen⟩ := Option.any_eq_true _ _ |>.1 (duplicateFirst_compare hide)
  obtain ⟨hflawless, hes, hmembers, hplain, ⟨view, hview, hopen, hgroup, hhides, hlow, hhigh⟩,
    hcompared⟩ := of_decide_eq_true hseen
  obtain ⟨⟨r', u⟩, hrun', hafter⟩ := Option.any_eq_true _ _ |>.1 hcompared
  obtain ⟨hok, view', hview', hends⟩ := of_decide_eq_true hafter
  have hreached : w.Reachable := by
    refine (reachable_duplicateFirst hide).execute
      (c := .setWindow 0 (if hide then 0 else 1) (if hide then 1 else 2))
      (r := r.map fun _ => .done) (by cases hide <;> decide +kernel) ?_
    rw [Command.execute, Command.runIn_change, hrun]
    rfl
  obtain ⟨group, hgroup', hgroupMembers⟩ :=
    group_of_members (g := view.group) hmembers (by rw [hgroup]; rfl)
  have hpoised := hreached.poised hview hopen hgroup' (by simp [hgroupMembers]) hflawless hes
  refine ⟨w, u, view, view', group, hreached, ⟨hpoised, ?_, ?_, hlow, hhigh⟩, hgroupMembers, hhides,
    ?_, ?_, hview', ?_⟩
  · rw [hgroupMembers]
    decide
  · rw [hgroupMembers]
    exact fun r hr => (hplain r hr).1
  · rw [hgroupMembers]
    exact fun r hr => (hplain r hr).2
  · cases r' with
    | ok x => exact hrun'
    | error e => cases hok
  · cases h : u.ends view' with
    | ok pair => rw [h] at hends; exact congrArg _ (Option.some_inj.1 hends)
    | error e => rw [h] at hends; cases hends

/-- The view that hides the duplicate compares it with one snapshot then, and the view that shows it
with the other. -/
theorem mutate_selectDifference_disagree : ∃ (w₁ w₂ u₁ u₂ : World)
    (view₁ view₂ view₁' view₂' : View),
    (perform (announceView fun _ w => some w) 0 (.selectDifference 1)).runIn
      (begun 0 (.selectDifference 1) w₁) = some (.ok (), u₁) ∧ u₁.views[0]? = some view₁' ∧
    (perform (announceView fun _ w => some w) 0 (.selectDifference 1)).runIn
      (begun 0 (.selectDifference 1) w₂) = some (.ok (), u₂) ∧ u₂.views[0]? = some view₂' ∧
    view₁.Denotes 0 2 ∧ view₂.Denotes 0 2 ∧ u₁.ends view₁' = .ok (1, 0) ∧
    u₂.ends view₂' = .ok (1, 2) := by
  obtain ⟨w₁, _, view₁, _, group₁, -, h₁, hmembers₁, hhides, hdup, hrun₁, -⟩ :=
    compares_duplicateFirst true
  obtain ⟨w₂, _, view₂, _, group₂, -, h₂, hmembers₂, hshows, -, hrun₂, -⟩ :=
    compares_duplicateFirst false
  have hmem : 1 ∈ group₁.members := by rw [hmembers₁]; decide
  obtain ⟨hhidden, hshown, -⟩ := mutate_selectDifference_agree_iff listening_unheard
    listening_unheard (fun _ _ => rfl) (fun _ _ => rfl) h₁ h₂ (hmembers₂.trans hmembers₁.symm)
    hhides hshows hmem
  have hcompared (hidden : Bool) :
      comparedWith w₁ hidden group₁.members 0 2 1 = (1, if hidden then 0 else 2) := by
    rw [comparedWith, hdup 1 hmem, hmembers₁]
    cases hidden <;> rfl
  rw [hcompared] at hhidden hshown
  cases hhidden with
  | unbuilt _ _ hfails => cases hfails.symm.trans hrun₁
  | completed hp₁ hview₁ hends₁ =>
    cases hshown with
    | unbuilt _ _ hfails => cases hfails.symm.trans hrun₂
    | completed hp₂ hview₂ hends₂ =>
      exact ⟨w₁, w₂, _, _, view₁, view₂, _, _, hp₁, hview₁, hp₂, hview₂, h₁.denotes, h₂.denotes,
        hends₁, hends₂⟩

/-- That duplicates are hidden can make a difference to what is compared. -/
theorem compared_apart : ¬ ∀ (R₁ R₂ : Respond) (w₁ w₂ u₁ u₂ : World) (v₁ v₂ : ViewRef)
    (view₁ view₂ view₁' view₂' : View) (group₁ group₂ : Group) (x y g : SnapshotRef),
    Listening R₁ → Listening R₂ → w₁.Reachable → w₂.Reachable →
    Compares v₁ w₁ view₁ group₁ x y → Compares v₂ w₂ view₂ group₂ x y →
    group₂.members = group₁.members →
    (∀ r ∈ group₁.members, w₂.isDuplicate r = w₁.isDuplicate r) →
    w₁.isDuplicate x = false → w₁.isDuplicate y = false →
    view₁.hides = true → view₂.hides = false → g ∈ group₁.members →
    (mutate (announceView R₁) v₁ (.selectDifference g)).runIn w₁ = some (.ok (), u₁) →
    (mutate (announceView R₂) v₂ (.selectDifference g)).runIn w₂ = some (.ok (), u₂) →
    u₁.views[v₁]? = some view₁' → u₂.views[v₂]? = some view₂' →
    u₁.ends view₁' = u₂.ends view₂' := by
  intro hall
  obtain ⟨w₁, u₁, view₁, view₁', group₁, hw₁, h₁, hmembers₁, hhides, hdup₁, hrun₁, hview₁,
    hends₁⟩ := compares_duplicateFirst true
  obtain ⟨w₂, u₂, view₂, view₂', group₂, hw₂, h₂, hmembers₂, hshows, hdup₂, hrun₂, hview₂,
    hends₂⟩ := compares_duplicateFirst false
  have hmembers : group₂.members = group₁.members := hmembers₂.trans hmembers₁.symm
  have hmem : 0 ∈ group₁.members ∧ 2 ∈ group₁.members ∧ 1 ∈ group₁.members := by
    rw [hmembers₁]
    decide
  have hequal := hall _ _ w₁ w₂ u₁ u₂ 0 0 view₁ view₂ view₁' view₂' group₁ group₂ 0 2 1
    listening_unheard listening_unheard hw₁ hw₂ h₁ h₂ hmembers
    (fun r hr => (hdup₂ r (hmembers ▸ hr)).trans (hdup₁ r hr).symm) (hdup₁ 0 hmem.1)
    (hdup₁ 2 hmem.2.1) hhides hshows hmem.2.2 hrun₁ hrun₂ hview₁ hview₂
  rw [hends₁, hends₂] at hequal
  cases hequal

end View

end SnapshotViewer
