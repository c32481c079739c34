import Mathlib.Data.List.Induction
import SnapshotViewer.Window

/-!
# Runs of a window

Whatever calls a window takes, its bounds stay in order (`take_ordered`, `run_ordered`), and a call
that succeeds leaves it inside the positions it is about (`high_lt_of_take`). A window that is moved
towards one position after the other has the least of them all at its low bound, and the last one
that was not below those before it at its high bound (`visit_append`, `visit_eq`). Such a visit is a
run of calls none of which fails (`run_of_visit`, `take_of_visit`). Main statement: `bounds_of_run`.
-/

namespace SnapshotViewer.Window

variable {w moved : Window} {low high size a n i : Int} {is : List Int}

/-- The bounds are positions, in order. -/
def Ordered (w : Window) : Prop := 0 ≤ w.low ∧ w.low ≤ w.high

theorem ofBounds_eq_ok : ofBounds low high size = .ok moved ↔
    moved = ⟨low, high⟩ ∧ 0 ≤ low ∧ low ≤ high ∧ high < size := by
  unfold ofBounds
  split
  · rename_i h
    constructor
    · intro hmoved
      cases hmoved
      exact ⟨rfl, h⟩
    · rintro ⟨rfl, -⟩
      rfl
  · rename_i h
    exact ⟨nofun, fun hmoved => absurd hmoved.2 h⟩

/-! ## Any calls -/

theorem ordered_of_ofBounds (h : ofBounds low high size = .ok moved) :
    moved.Ordered ∧ moved.high < size := by
  obtain ⟨rfl, hlow, hordered, hhigh⟩ := ofBounds_eq_ok.1 h
  exact ⟨⟨hlow, hordered⟩, hhigh⟩

theorem Ordered.clamp (h : w.Ordered) (size : Int) : (w.clamp size).Ordered := by
  obtain ⟨hlow, hordered⟩ := h
  simp only [Ordered, Window.clamp]
  omega

theorem high_clamp_lt (w : Window) (hsize : 1 ≤ size) : (w.clamp size).high < size := by
  simp only [Window.clamp]
  omega

/-- What a call asks for is in order, and inside the positions if there are any. -/
theorem Ordered.requested (h : w.Ordered) {c : Call} (hmoved : w.requested c = .ok moved) :
    moved.Ordered ∧ (1 ≤ c.size → moved.high < c.size) := by
  cases c with
  | set low high size =>
    obtain ⟨hordered, hhigh⟩ := ordered_of_ofBounds hmoved
    exact ⟨hordered, fun _ => hhigh⟩
  | anchorTo index size =>
    simp only [Window.requested, Window.anchorTo] at hmoved
    split at hmoved <;>
    · obtain ⟨hordered, hhigh⟩ := ordered_of_ofBounds hmoved
      exact ⟨hordered, fun _ => hhigh⟩
  | clamp size =>
    cases hmoved
    exact ⟨h.clamp size, high_clamp_lt w⟩

/-- One call keeps the bounds in order. -/
theorem take_ordered (h : w.Ordered) (c : Call) : (w.take c).2.Ordered := by
  unfold take
  cases hmoved : w.requested c with
  | ok moved => exact (h.requested hmoved).1
  | error e => exact h

/-- A call that fails leaves the window where it is. -/
theorem take_of_error {c : Call} {e : Failure} (h : (w.take c).1 = .error e) :
    (w.take c).2 = w := by
  unfold take at h ⊢
  cases hmoved : w.requested c with
  | ok moved => rw [hmoved] at h; cases h
  | error e => rfl

theorem high_lt_of_take (hw : w.Ordered) {c : Call} {changed : Bool}
    (h : (w.take c).1 = .ok changed) (hsize : 1 ≤ c.size) : (w.take c).2.high < c.size := by
  unfold take at h ⊢
  cases hmoved : w.requested c with
  | ok moved => exact (hw.requested hmoved).2 hsize
  | error e => rw [hmoved] at h; cases h

theorem run_ordered (h : w.Ordered) (calls : List Call) : (w.run calls).Ordered := by
  induction calls generalizing w with
  | nil => exact h
  | cons c rest ih => exact ih (take_ordered h c)

/-! ## Moving towards positions -/

/-- Moves a window towards positions, one after the other. -/
def visit (w : Window) (n : Int) (is : List Int) : Except Failure Window :=
  is.foldlM (fun w i => w.anchorTo i n) w

/-- The least of a start and some positions. -/
def leastOf (a : Int) (is : List Int) : Int := is.foldl min a

/-- The `j`-th of some positions is `i`, and not below the start and those before it. -/
def HoldsAt (a : Int) (is : List Int) (j : Nat) (i : Int) : Prop :=
  is[j]? = some i ∧ leastOf a (is.take j) ≤ i

/-- The last of some positions that is not below the start and those before it, or the start if
there is none. -/
def LastHeld (a : Int) (is : List Int) (high : Int) : Prop :=
  (∃ j, HoldsAt a is j high ∧ ∀ k i, j < k → ¬ HoldsAt a is k i) ∨
    (high = a ∧ ∀ k i, ¬ HoldsAt a is k i)

theorem leastOf_append (a i : Int) (is : List Int) :
    leastOf a (is ++ [i]) = min (leastOf a is) i := by
  simp [leastOf]

theorem leastOf_bounds (h : ∀ i ∈ a :: is, 0 ≤ i ∧ i < n) :
    0 ≤ leastOf a is ∧ leastOf a is < n := by
  induction is using List.reverseRecOn with
  | nil => exact h a (by simp)
  | append_singleton is i ih =>
    have hi := h i (by simp)
    have hbefore := ih fun j hj => h j (by simp at hj ⊢; tauto)
    rw [leastOf_append]
    omega

/-- Among one position more, only the new one can be another that holds. -/
theorem holdsAt_append {j : Nat} {x : Int} : HoldsAt a (is ++ [i]) j x ↔
    HoldsAt a is j x ∨ (j = is.length ∧ x = i ∧ leastOf a is ≤ i) := by
  unfold HoldsAt
  by_cases hj : j < is.length
  · rw [List.getElem?_append_left hj, List.take_append_of_le_length (Nat.le_of_lt hj)]
    constructor
    · exact .inl
    · rintro (h | ⟨rfl, -⟩)
      · exact h
      · exact absurd hj (Nat.lt_irrefl _)
  · have hnone : is[j]? = none := List.getElem?_eq_none (Nat.not_lt.1 hj)
    by_cases heq : j = is.length
    · subst heq
      rw [List.getElem?_concat_length, List.take_left', hnone]
      constructor
      · rintro ⟨hx, hle⟩
        cases hx
        exact .inr ⟨rfl, rfl, hle⟩
      · rintro (⟨hx, -⟩ | ⟨-, rfl, hle⟩)
        · cases hx
        · exact ⟨rfl, hle⟩
      · rfl
    · have hbehind : (is ++ [i])[j]? = none := List.getElem?_eq_none (by simp; omega)
      simp [hnone, hbehind, heq]

/-- A position that is not below those before is the last one that holds. -/
theorem LastHeld.append_of_le (h : leastOf a is ≤ i) : LastHeld a (is ++ [i]) i := by
  refine .inl ⟨is.length, holdsAt_append.2 (.inr ⟨rfl, rfl, h⟩), fun k x hk hheld => ?_⟩
  rcases holdsAt_append.1 hheld with ⟨hx, -⟩ | ⟨heq, -⟩
  · rw [List.getElem?_eq_none (Nat.le_of_lt hk)] at hx
    cases hx
  · omega

/-- A position that is below those before does not hold. -/
theorem LastHeld.append_of_lt (hlast : LastHeld a is high) (h : i < leastOf a is) :
    LastHeld a (is ++ [i]) high := by
  have hsame (k : Nat) (x : Int) : HoldsAt a (is ++ [i]) k x ↔ HoldsAt a is k x := by
    rw [holdsAt_append]
    exact or_iff_left fun hnew => absurd hnew.2.2 (Int.not_le.2 h)
  simpa only [LastHeld, hsame] using hlast

/-- One position more. -/
theorem visit_append (hvisit : visit w n is = .ok moved) (i : Int) :
    visit w n (is ++ [i]) = moved.anchorTo i n := by
  unfold visit at hvisit ⊢
  rw [List.foldlM_append, hvisit]
  exact bind_pure (moved.anchorTo i n)

/-- The calls that move a window towards positions. -/
def approach (n : Int) (is : List Int) : List Call := is.map fun i => .anchorTo i n

/-- A call that does not fail leaves the window that it asks for. -/
theorem take_of_requested {c : Call} (h : w.requested c = .ok moved) :
    w.take c = (.ok (moved ≠ w), moved) := by
  rw [take, h]

/-- Moving towards positions, if it succeeds, succeeds with the first one. -/
theorem visit_of_cons (h : visit w n (i :: is) = .ok moved) :
    ∃ next, w.anchorTo i n = .ok next ∧ visit next n is = .ok moved := by
  rw [visit, List.foldlM_cons] at h
  cases hfirst : w.anchorTo i n with
  | error e =>
    rw [hfirst] at h
    cases h
  | ok next =>
    rw [hfirst] at h
    exact ⟨next, rfl, h⟩

/-- Moving towards positions, if it succeeds, succeeds on the way. -/
theorem visit_of_append {before after : List Int} (h : visit w n (before ++ after) = .ok moved) :
    ∃ between, visit w n before = .ok between ∧ visit between n after = .ok moved := by
  induction before generalizing w with
  | nil => exact ⟨w, rfl, h⟩
  | cons i rest ih =>
    obtain ⟨next, hfirst, hrest⟩ := visit_of_cons h
    obtain ⟨between, hbefore, hafter⟩ := ih hrest
    refine ⟨between, ?_, hafter⟩
    rw [visit, List.foldlM_cons, hfirst]
    exact hbefore

/-- Moving towards positions, if it succeeds, ends where the run of the calls ends. -/
theorem run_of_visit (h : visit w n is = .ok moved) : run w (approach n is) = moved := by
  induction is generalizing w with
  | nil =>
    cases h
    rfl
  | cons i rest ih =>
    obtain ⟨next, hfirst, hrest⟩ := visit_of_cons h
    have htake := take_of_requested (c := .anchorTo i n) hfirst
    rw [approach, List.map_cons, run, List.foldl_cons, htake]
    exact ih hrest

/-- None of the calls of such a run fails. -/
theorem take_of_visit {before after : List Int}
    (h : visit w n (before ++ i :: after) = .ok moved) :
    ∃ changed, ((run w (approach n before)).take (.anchorTo i n)).1 = .ok changed := by
  obtain ⟨between, hbefore, hafter⟩ := visit_of_append h
  obtain ⟨next, hnext, -⟩ := visit_of_cons hafter
  rw [run_of_visit hbefore]
  exact ⟨_, congrArg Prod.fst (take_of_requested (c := .anchorTo i n) hnext)⟩

/-- Moving towards positions from a single one never fails. -/
theorem visit_eq (h : ∀ i ∈ a :: is, 0 ≤ i ∧ i < n) :
    ∃ high, visit ⟨a, a⟩ n is = .ok ⟨leastOf a is, high⟩ ∧ leastOf a is ≤ high ∧ high < n ∧
      LastHeld a is high := by
  induction is using List.reverseRecOn with
  | nil =>
    have ha := h a (by simp)
    exact ⟨a, rfl, Int.le_refl a, ha.2, .inr ⟨rfl, fun k i hheld => by simp [HoldsAt] at hheld⟩⟩
  | append_singleton is i ih =>
    have hi := h i (by simp)
    have hbefore : ∀ j ∈ a :: is, 0 ≤ j ∧ j < n := fun j hj => h j (by simp at hj ⊢; tauto)
    obtain ⟨high, hvisit, hle, hhigh, hlast⟩ := ih hbefore
    have hleast := leastOf_bounds hbefore
    rw [visit_append hvisit, leastOf_append, Window.anchorTo]
    by_cases hheld : leastOf a is ≤ i
    · rw [if_pos hheld, Int.min_eq_left hheld]
      exact ⟨i, ofBounds_eq_ok.2 ⟨rfl, hleast.1, hheld, hi.2⟩, hheld, hi.2, .append_of_le hheld⟩
    · have hbelow : i < leastOf a is := Int.not_le.1 hheld
      rw [if_neg hheld, Int.min_eq_right (Int.le_of_lt hbelow)]
      have hordered : i ≤ high := by omega
      exact ⟨high, ofBounds_eq_ok.2 ⟨rfl, hi.1, hordered, hhigh⟩, hordered, hhigh,
        hlast.append_of_lt hbelow⟩

/-- After any calls of a fresh window its bounds are in order. A further call leaves the window
where it is if it fails, and else, if there are any positions, inside them; clamping never fails. A
window on a single position that is moved towards positions never fails, not even on the way; its low
bound is the least of them all then, and its high bound the last one that was not below those before
it. -/
theorem bounds_of_run :
    (∀ (calls : List Call) (c : Call), (run {} calls).Ordered ∧
      (∀ e, ((run {} calls).take c).1 = .error e →
        ((run {} calls).take c).2 = run {} calls ∧ ∀ size, c ≠ .clamp size) ∧
      (∀ changed, ((run {} calls).take c).1 = .ok changed → 1 ≤ c.size →
        ((run {} calls).take c).2.high < c.size)) ∧
    ∀ (a n : Int) (is : List Int), (∀ i ∈ a :: is, 0 ≤ i ∧ i < n) →
      ∃ high, visit ⟨a, a⟩ n is = .ok ⟨leastOf a is, high⟩ ∧ LastHeld a is high ∧
        run ⟨a, a⟩ (approach n is) = ⟨leastOf a is, high⟩ ∧
        ∀ before i after, is = before ++ i :: after → ∃ changed,
          ((run ⟨a, a⟩ (approach n before)).take (.anchorTo i n)).1 = .ok changed := by
  refine ⟨fun calls c => ?_, fun a n is h => ?_⟩
  · have hordered : (run {} calls).Ordered := run_ordered ⟨Int.le_refl 0, Int.le_refl 0⟩ calls
    refine ⟨hordered, fun e he => ⟨take_of_error he, ?_⟩, fun changed => high_lt_of_take hordered⟩
    rintro size rfl
    cases he
  · obtain ⟨high, hvisit, -, -, hlast⟩ := visit_eq h
    refine ⟨high, hvisit, hlast, run_of_visit hvisit, ?_⟩
    rintro before i after rfl
    exact take_of_visit hvisit

/-- A window on the fourth of six positions is moved to both sides. -/
theorem bounds_of_run_bothSides : visit ⟨3, 3⟩ 6 [5, 1, 4, 0, 2, 1] = .ok ⟨0, 1⟩ ∧
    LastHeld 3 [5, 1, 4, 0, 2, 1] 1 ∧ run ⟨3, 3⟩ (approach 6 [5, 1, 4, 0, 2, 1]) = ⟨0, 1⟩ := by
  have hcomputed : visit ⟨3, 3⟩ 6 [5, 1, 4, 0, 2, 1] = .ok ⟨0, 1⟩ := rfl
  obtain ⟨high, hvisit, hlast, hrun, -⟩ := bounds_of_run.2 3 6 [5, 1, 4, 0, 2, 1] (by decide)
  have hhigh : high = 1 := by
    rw [hcomputed] at hvisit
    injection hvisit with hwindow
    injection hwindow with _ hhigh
    exact hhigh.symm
  subst hhigh
  exact ⟨hcomputed, hlast, hrun⟩

end SnapshotViewer.Window
