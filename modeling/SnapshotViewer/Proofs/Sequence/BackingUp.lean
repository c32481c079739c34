import Mathlib.Data.List.Induction
import Mathlib.Data.List.Nodup
import SnapshotViewer.Sequence

/-!
# Backing up to an entry that is not hidden

An entry is backed up to the last one at or before its first position that is no duplicate, and
after a leading run of duplicates to the first one that is none. `BacksUp` says so of positions,
because an entry can stand at several. There is at most one such position, and it moves with the
position that is backed up (`BacksUp.mono`). Main statement: `resolveUnhidden_projects`.
-/

namespace SnapshotViewer.Sequence

variable {α : Type} {isDuplicate : α → Bool} {entries : List α} {e x : α} {i j p q : Nat}

/-! ## Positions -/

/-- The entry at a position is no duplicate. -/
def FreshAt (isDuplicate : α → Bool) (entries : List α) (p : Nat) : Prop :=
  ∃ x, entries[p]? = some x ∧ isDuplicate x = false

/-- Where position `i` is backed up to: to the last position at or before it with an entry that is
no duplicate, or to the first such one behind it if there is none before. -/
inductive BacksUp (isDuplicate : α → Bool) (entries : List α) (i p : Nat) : Prop where
  | back (hfresh : FreshAt isDuplicate entries p) (hle : p ≤ i)
      (hlast : ∀ q, p < q → q ≤ i → ¬ FreshAt isDuplicate entries q)
  | ahead (hfresh : FreshAt isDuplicate entries p) (hlt : i < p)
      (hfirst : ∀ q, q < p → ¬ FreshAt isDuplicate entries q)

theorem BacksUp.fresh (h : BacksUp isDuplicate entries i p) : FreshAt isDuplicate entries p := by
  cases h with
  | back hfresh => exact hfresh
  | ahead hfresh => exact hfresh

/-- Backing up keeps the order of positions. -/
theorem BacksUp.mono (h : BacksUp isDuplicate entries i p) (h' : BacksUp isDuplicate entries j q)
    (hij : i ≤ j) : p ≤ q := by
  cases h with
  | back hfresh hle hlast =>
    cases h' with
    | back hfresh' hle' hlast' =>
      refine Nat.not_lt.1 fun hlt => ?_
      exact hlast' p hlt (Nat.le_trans hle hij) hfresh
    | ahead hfresh' hlt' hfirst' => omega
  | ahead hfresh hlt hfirst =>
    exact Nat.not_lt.1 fun hqp => hfirst q hqp h'.fresh

/-- The last entry of a list that satisfies a test is followed by none that does. -/
theorem getElem?_of_find?_reverse {test : α → Bool} {l : List α}
    (h : l.reverse.find? test = some x) : ∃ k : Nat, l[k]? = some x ∧ test x = true ∧
      ∀ (q : Nat) (y : α), k < q → l[q]? = some y → test y = false := by
  induction l using List.reverseRecOn with
  | nil => cases h
  | append_singleton l z ih =>
    rw [List.reverse_append, List.reverse_singleton, List.singleton_append, List.find?_cons] at h
    cases hz : test z with
    | true =>
      rw [hz] at h
      cases h
      refine ⟨l.length, List.getElem?_concat_length .., hz, fun q y hq hy => ?_⟩
      rw [List.getElem?_eq_none (by simp; omega)] at hy
      cases hy
    | false =>
      rw [hz] at h
      obtain ⟨k, hk, htest, hlast⟩ := ih h
      have hlt : k < l.length := (List.getElem?_eq_some_iff.1 hk).1
      refine ⟨k, (List.getElem?_append_left hlt).trans hk, htest, fun q y hq hy => ?_⟩
      by_cases hql : q < l.length
      · exact hlast q y hq ((List.getElem?_append_left hql).symm.trans hy)
      · have hend : q = l.length := by
          have hbound := (List.getElem?_eq_some_iff.1 hy).1
          simp at hbound
          omega
        rw [hend, List.getElem?_concat_length] at hy
        cases hy
        exact hz

/-- What is nearest to a position stands where the position is backed up to. -/
theorem backsUp_of_nearest
    (h : nearest isDuplicate (entries.take (i + 1)) (entries.drop (i + 1)) = some x) :
    ∃ p, BacksUp isDuplicate entries i p ∧ entries[p]? = some x := by
  unfold nearest at h
  split at h
  · rename_i hfound
    cases h
    obtain ⟨p, hp, hfresh, hlast⟩ := getElem?_of_find?_reverse hfound
    rw [List.getElem?_take] at hp
    split at hp
    · rename_i hle
      refine ⟨p, .back ⟨x, hp, by simpa using hfresh⟩ (by omega) ?_, hp⟩
      rintro q hpq hqi ⟨z, hz, hzfresh⟩
      have hduplicate := hlast q z hpq (by rw [List.getElem?_take, if_pos (by omega), hz])
      rw [hzfresh] at hduplicate
      cases hduplicate
    · cases hp
  · rename_i hnone
    obtain ⟨hfresh, k, hk, rfl, hfirst⟩ := List.find?_eq_some_iff_getElem.1 h
    have hbefore (q : Nat) (hq : q < i + 1) : ¬ FreshAt isDuplicate entries q := by
      rintro ⟨z, hz, hzfresh⟩
      have hmem : z ∈ (entries.take (i + 1)).reverse := by
        refine List.mem_reverse.2 (List.mem_of_getElem? (i := q) ?_)
        rw [List.getElem?_take, if_pos hq, hz]
      have htest := List.find?_eq_none.1 hnone z hmem
      simp [hzfresh] at htest
    have hentry : entries[i + 1 + k]? = some (entries.drop (i + 1))[k] := by
      rw [← List.getElem?_drop, List.getElem?_eq_getElem hk]
    refine ⟨i + 1 + k, .ahead ⟨_, hentry, by simpa using hfresh⟩ (by omega) ?_, hentry⟩
    rintro q hq ⟨z, hz, hzfresh⟩
    by_cases hqi : q < i + 1
    · exact hbefore q hqi ⟨z, hz, hzfresh⟩
    · have hlt : q - (i + 1) < k := by omega
      have htest := hfirst (q - (i + 1)) hlt
      have hsame : i + 1 + (q - (i + 1)) = q := by omega
      rw [List.getElem_drop] at htest
      have hz' : entries[i + 1 + (q - (i + 1))]? = some z := by rw [hsame, hz]
      obtain ⟨_, hget⟩ := List.getElem?_eq_some_iff.1 hz'
      rw [hget, hzfresh] at htest
      cases htest

/-! ## Entries -/

theorem fresh_of_mem_visible (hx : x ∈ visible isDuplicate true entries) :
    x ∈ entries ∧ isDuplicate x = false := by
  obtain ⟨hmem, hfresh⟩ := List.mem_filter.1 hx
  exact ⟨hmem, by simpa using hfresh⟩

section

variable [DecidableEq α]

theorem indexOf?_eq_some_idxOf (hx : x ∈ entries) :
    indexOf? entries x = some (entries.idxOf x) := by
  induction entries with
  | nil => cases hx
  | cons z rest ih =>
    rw [indexOf?]
    split
    · rename_i heq
      rw [heq, List.idxOf_cons_self]
    · rename_i hne
      rw [ih ((List.mem_cons.1 hx).resolve_left fun heq => hne heq.symm), Option.map_some,
        List.idxOf_cons_ne _ hne]

variable (name : α → String)

/-- An entry can be backed up to one that is no duplicate if there is one. -/
theorem resolveUnhidden_succeeds (he : e ∈ entries)
    (hsome : ∃ x ∈ entries, isDuplicate x = false) :
    ∃ x, resolveUnhidden name isDuplicate entries e = .ok x := by
  obtain ⟨x, hx, hfresh⟩ := hsome
  unfold resolveUnhidden
  split
  · rename_i hnone
    exact absurd he (indexOf?_eq_none.1 hnone)
  · rename_i i _
    split
    · exact ⟨_, rfl⟩
    · rename_i hnone
      unfold nearest at hnone
      split at hnone
      · cases hnone
      · rename_i hbefore
        rw [List.find?_eq_none] at hbefore hnone
        rw [← List.take_append_drop (i + 1) entries] at hx
        rcases List.mem_append.1 hx with hx | hx
        · exact absurd hfresh (by simpa using hbefore x (List.mem_reverse.2 hx))
        · exact absurd hfresh (by simpa using hnone x hx)

theorem resolveUnhidden_absent (isDuplicate : α → Bool) (he : e ∉ entries) :
    resolveUnhidden name isDuplicate entries e = .error (.notInSequence (name e)) := by
  unfold resolveUnhidden
  rw [indexOf?_eq_none.2 he]

/-- Among duplicates alone there is nothing to back up to. -/
theorem resolveUnhidden_hidden (he : e ∈ entries) (hall : ∀ x ∈ entries, isDuplicate x = true) :
    resolveUnhidden name isDuplicate entries e = .error .onlyDuplicates := by
  have hnone (l : List α) (hl : ∀ x ∈ l, x ∈ entries) : l.find? (fun x => !isDuplicate x) = none :=
    List.find?_eq_none.2 fun x hx => by simp [hall x (hl x hx)]
  unfold resolveUnhidden
  rw [indexOf?_eq_some_idxOf he]
  dsimp only
  rw [nearest, hnone _ fun x hx => List.mem_of_mem_take (List.mem_reverse.1 hx), hnone]
  exact fun x hx => List.mem_of_mem_drop hx

theorem backsUp_of_resolveUnhidden (h : resolveUnhidden name isDuplicate entries e = .ok x) :
    e ∈ entries ∧ ∃ p, BacksUp isDuplicate entries (entries.idxOf e) p ∧ entries[p]? = some x := by
  by_cases he : e ∈ entries
  · refine ⟨he, ?_⟩
    unfold resolveUnhidden at h
    rw [indexOf?_eq_some_idxOf he] at h
    dsimp only at h
    split at h
    · rename_i found hfound
      cases h
      exact backsUp_of_nearest hfound
    · cases h
  · rw [resolveUnhidden_absent name isDuplicate he] at h
    cases h

theorem resolveUnhidden_eq_ok : resolveUnhidden name isDuplicate entries e = .ok x ↔
    e ∈ entries ∧ ∃ p, BacksUp isDuplicate entries (entries.idxOf e) p ∧ entries[p]? = some x := by
  refine ⟨backsUp_of_resolveUnhidden name, ?_⟩
  rintro ⟨he, p, hp, hx⟩
  obtain ⟨z, hz, hfresh⟩ := hp.fresh
  obtain ⟨y, hy⟩ := resolveUnhidden_succeeds name he ⟨z, List.mem_of_getElem? hz, hfresh⟩
  obtain ⟨-, q, hq, hentry⟩ := backsUp_of_resolveUnhidden name hy
  have hsame : p = q := Nat.le_antisymm (hp.mono hq (Nat.le_refl _)) (hq.mono hp (Nat.le_refl _))
  rw [hsame, hentry] at hx
  cases hx
  exact hy

/-- An entry that is no duplicate stays where it is. -/
theorem resolveUnhidden_fresh (he : e ∈ entries) (hfresh : isDuplicate e = false) :
    resolveUnhidden name isDuplicate entries e = .ok e := by
  have hentry : entries[entries.idxOf e]? = some e :=
    getElem?_of_indexOf? (indexOf?_eq_some_idxOf he)
  refine (resolveUnhidden_eq_ok name).2
    ⟨he, _, .back ⟨e, hentry, hfresh⟩ (Nat.le_refl _) ?_, hentry⟩
  intro q hlt hle
  omega

theorem resolveUnhidden_eq_error {f : Failure} :
    resolveUnhidden name isDuplicate entries e = .error f ↔
      (e ∉ entries ∧ f = .notInSequence (name e)) ∨
        (e ∈ entries ∧ (∀ x ∈ entries, isDuplicate x = true) ∧ f = .onlyDuplicates) := by
  by_cases he : e ∈ entries
  · by_cases hall : ∀ x ∈ entries, isDuplicate x = true
    · rw [resolveUnhidden_hidden name he hall]
      constructor
      · intro hf
        cases hf
        exact .inr ⟨he, hall, rfl⟩
      · rintro (⟨hnone, -⟩ | ⟨-, -, rfl⟩)
        · exact absurd he hnone
        · rfl
    · have hsome : ∃ x ∈ entries, isDuplicate x = false := by simpa using hall
      obtain ⟨x, hx⟩ := resolveUnhidden_succeeds name he hsome
      rw [hx]
      refine ⟨nofun, ?_⟩
      rintro (⟨hnone, -⟩ | ⟨-, hall', -⟩)
      · exact absurd he hnone
      · exact absurd hall' hall
  · rw [resolveUnhidden_absent name isDuplicate he]
    constructor
    · intro hf
      cases hf
      exact .inl ⟨he, rfl⟩
    · rintro (⟨-, rfl⟩ | ⟨hmem, -⟩)
      · rfl
      · exact absurd hmem he

/-- An entry that stands first at or before another one is not backed up behind it. -/
theorem resolveUnhidden_mono {e' x' : α} (hx : resolveUnhidden name isDuplicate entries e = .ok x)
    (hx' : resolveUnhidden name isDuplicate entries e' = .ok x')
    (hle : entries.idxOf e ≤ entries.idxOf e') :
    (∃ p q, BacksUp isDuplicate entries (entries.idxOf e) p ∧ entries[p]? = some x ∧
      BacksUp isDuplicate entries (entries.idxOf e') q ∧ entries[q]? = some x' ∧ p ≤ q) ∧
    (entries.Nodup → entries.idxOf x ≤ entries.idxOf x') := by
  obtain ⟨-, p, hp, hentry⟩ := backsUp_of_resolveUnhidden name hx
  obtain ⟨-, q, hq, hentry'⟩ := backsUp_of_resolveUnhidden name hx'
  have hpq : p ≤ q := hp.mono hq hle
  refine ⟨⟨p, q, hp, hentry, hq, hentry', hpq⟩, fun hdistinct => ?_⟩
  obtain ⟨hlt, rfl⟩ := List.getElem?_eq_some_iff.1 hentry
  obtain ⟨hlt', rfl⟩ := List.getElem?_eq_some_iff.1 hentry'
  rwa [hdistinct.idxOf_getElem p hlt, hdistinct.idxOf_getElem q hlt']

/-- Backing up fails exactly for what is not listed and among duplicates alone. Else it comes to the
entry that is nearest to the first position, which is shown when duplicates are hidden. It leaves
what is no duplicate where it is, so that backing up again changes nothing, and it keeps the order
of first positions. -/
theorem resolveUnhidden_projects (isDuplicate : α → Bool) (entries : List α) (e : α) :
    (∀ f, resolveUnhidden name isDuplicate entries e = .error f ↔
      (e ∉ entries ∧ f = .notInSequence (name e)) ∨
        (e ∈ entries ∧ (∀ x ∈ entries, isDuplicate x = true) ∧ f = .onlyDuplicates)) ∧
    (∀ x, resolveUnhidden name isDuplicate entries e = .ok x ↔ e ∈ entries ∧
      ∃ p, BacksUp isDuplicate entries (entries.idxOf e) p ∧ entries[p]? = some x) ∧
    (∀ x, resolveUnhidden name isDuplicate entries e = .ok x →
      x ∈ visible isDuplicate true entries ∧
        resolveUnhidden name isDuplicate entries x = .ok x) ∧
    (e ∈ entries → isDuplicate e = false → resolveUnhidden name isDuplicate entries e = .ok e) ∧
    ∀ e' x x', resolveUnhidden name isDuplicate entries e = .ok x →
      resolveUnhidden name isDuplicate entries e' = .ok x' →
      entries.idxOf e ≤ entries.idxOf e' →
      (∃ p q, BacksUp isDuplicate entries (entries.idxOf e) p ∧ entries[p]? = some x ∧
        BacksUp isDuplicate entries (entries.idxOf e') q ∧ entries[q]? = some x' ∧ p ≤ q) ∧
      (entries.Nodup → entries.idxOf x ≤ entries.idxOf x') := by
  refine ⟨fun f => resolveUnhidden_eq_error name, fun x => resolveUnhidden_eq_ok name,
    fun x hx => ?_, resolveUnhidden_fresh name, fun e' x x' => resolveUnhidden_mono name⟩
  have hvisible := mem_visible_of_resolveUnhidden hx
  obtain ⟨hmem, hfresh⟩ := fresh_of_mem_visible hvisible
  exact ⟨hvisible, resolveUnhidden_fresh name hmem hfresh⟩

/-- Odd numbers are the duplicates. The list begins with one, and `2` is listed twice: what is
backed up to it from behind stands at its second position. -/
theorem resolveUnhidden_projects_repeated :
    resolveUnhidden (toString : Nat → String) (· % 2 == 1) [1, 2, 4, 2, 3] 1 = .ok 2 ∧
      resolveUnhidden (toString : Nat → String) (· % 2 == 1) [1, 2, 4, 2, 3] 3 = .ok 2 ∧
      BacksUp (· % 2 == 1) [1, 2, 4, 2, 3] 0 1 ∧ BacksUp (· % 2 == 1) [1, 2, 4, 2, 3] 4 3 := by
  have hahead : BacksUp (· % 2 == 1) [1, 2, 4, 2, 3] 0 1 := by
    refine .ahead ⟨2, rfl, rfl⟩ (by decide) ?_
    rintro q hq ⟨x, hx, hfresh⟩
    obtain rfl : q = 0 := by omega
    cases hx
    cases hfresh
  have hback : BacksUp (· % 2 == 1) [1, 2, 4, 2, 3] 4 3 := by
    refine .back ⟨2, rfl, rfl⟩ (by decide) ?_
    rintro q hlt hle ⟨x, hx, hfresh⟩
    obtain rfl : q = 4 := by omega
    cases hx
    cases hfresh
  refine ⟨?_, ?_, hahead, hback⟩
  · exact ((resolveUnhidden_projects toString (· % 2 == 1) [1, 2, 4, 2, 3] 1).2.1 2).2
      ⟨by decide, 1, hahead, rfl⟩
  · exact ((resolveUnhidden_projects toString (· % 2 == 1) [1, 2, 4, 2, 3] 3).2.1 2).2
      ⟨by decide, 3, hback, rfl⟩

end

end SnapshotViewer.Sequence
