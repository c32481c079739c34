import SnapshotViewer.Failure

/-!
# The visible sequence

A view shows the snapshots of a group in their order, without the duplicates if they are hidden. The
functions work on any type of entries that are told apart by equality, with a test for duplicates.
-/

namespace SnapshotViewer.Sequence

variable {α : Type}

/-- The entries that are shown. -/
def visible (isDuplicate : α → Bool) (hide : Bool) (entries : List α) : List α :=
  entries.filter fun e => !(hide && isDuplicate e)

variable [DecidableEq α]

/-- The first position of an entry. -/
def indexOf? (entries : List α) (e : α) : Option Nat :=
  match entries with
  | [] => none
  | x :: rest => if x = e then some 0 else (indexOf? rest e).map (· + 1)

theorem getElem?_of_indexOf? {entries : List α} {e : α} {i : Nat}
    (h : indexOf? entries e = some i) : entries[i]? = some e := by
  induction entries generalizing i with
  | nil => cases h
  | cons x rest ih =>
    rw [indexOf?] at h
    split at h
    · rename_i heq
      cases h
      rw [heq]
      rfl
    · obtain ⟨j, hj, rfl⟩ := Option.map_eq_some_iff.1 h
      exact ih hj

theorem indexOf?_eq_none {entries : List α} {e : α} : indexOf? entries e = none ↔ e ∉ entries := by
  induction entries with
  | nil => simp [indexOf?]
  | cons x rest ih =>
    rw [indexOf?, List.mem_cons]
    split
    · rename_i heq
      simp [heq]
    · rename_i hne
      rw [Option.map_eq_none_iff, ih, not_or]
      exact ⟨fun h => ⟨fun heq => hne heq.symm, h⟩, fun h => h.2⟩

theorem indexOf?_of_mem {entries : List α} {e : α} (h : e ∈ entries) :
    ∃ i, indexOf? entries e = some i :=
  Option.ne_none_iff_exists'.1 fun hnone => indexOf?_eq_none.1 hnone h

/-- The last entry of a list, from its end, that is no duplicate, and else the first such one of
another list. -/
def nearest (isDuplicate : α → Bool) (before after : List α) : Option α :=
  match before.reverse.find? fun e => !isDuplicate e with
  | some e => some e
  | none => after.find? fun e => !isDuplicate e

/-- Backs an entry up to the last one at or before its first position that is no duplicate. After a
leading run of duplicates this is the first entry that is none. -/
def resolveUnhidden (name : α → String) (isDuplicate : α → Bool) (entries : List α) (e : α) :
    Except Failure α :=
  match indexOf? entries e with
  | none => .error (.notInSequence (name e))
  | some i =>
    match nearest isDuplicate (entries.take (i + 1)) (entries.drop (i + 1)) with
    | some found => .ok found
    | none => .error .onlyDuplicates

/-- What an entry is backed up to is shown when duplicates are hidden. -/
theorem mem_visible_of_resolveUnhidden {name : α → String} {isDuplicate : α → Bool}
    {entries : List α} {e x : α} (h : resolveUnhidden name isDuplicate entries e = .ok x) :
    x ∈ visible isDuplicate true entries := by
  unfold resolveUnhidden at h
  split at h
  · cases h
  · rename_i i _
    split at h
    · rename_i found hfound
      cases h
      unfold nearest at hfound
      split at hfound
      · rename_i y hy
        cases hfound
        have hmem := List.mem_of_mem_take (List.mem_reverse.1 (List.mem_of_find?_eq_some hy))
        exact List.mem_filter.2 ⟨hmem, by simpa using List.find?_some hy⟩
      · have hmem := List.mem_of_mem_drop (List.mem_of_find?_eq_some hfound)
        exact List.mem_filter.2 ⟨hmem, by simpa using List.find?_some hfound⟩
    · cases h

end SnapshotViewer.Sequence
