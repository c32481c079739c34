import SnapshotViewer.Binary64.Basic

/-!
# Values of data files

A value is what a data file holds: a scalar, a list, or a map from scalars to values in the order of
the file. A map is put together entry by entry, and a key that is there already takes the new value
(`Value.keys_put`), so that no key of it is there twice (`Value.keysDiffer_ofEntries`).
-/

namespace SnapshotViewer

/-- A value without parts. -/
inductive Scalar where
  | null
  | bool (b : Bool)
  | int (n : Int)
  | real (x : Binary64)
  | text (s : String)
deriving DecidableEq

/-- A value of a data file. -/
inductive Value where
  | scalar (s : Scalar)
  | list (items : List Value)
  | map (entries : List (Scalar × Value))
deriving Inhabited

namespace Scalar

/-- The integer that a scalar is equal to. -/
def toInt? : Scalar → Option Int
  | .bool b => some (if b then 1 else 0)
  | .int n => some n
  | .real x => x.toInt?
  | _ => none

/-- Equality across the kinds of numbers: a truth value, an integer and a real are the same if their
numbers are. -/
def same : Scalar → Scalar → Bool
  | .null, .null => true
  | .text s, .text t => s == t
  | .real x, .real y => x.same y
  | a, b =>
    match a.toInt?, b.toInt? with
    | some m, some n => m == n
    | _, _ => false

/-- Everything counts as true but null, false, zero and the empty text. -/
def isTrue : Scalar → Bool
  | .null => false
  | .bool b => b
  | .int n => n != 0
  | .real x => x.isNonzero
  | .text s => !s.isEmpty

end Scalar

namespace Value

/-- The missing value. -/
abbrev null : Value := .scalar .null

/-- A truth value. -/
abbrev bool (b : Bool) : Value := .scalar (.bool b)

/-- An integer. -/
abbrev int (n : Int) : Value := .scalar (.int n)

/-- A text. -/
abbrev text (s : String) : Value := .scalar (.text s)

/-- The missing value or not. -/
def isNull : Value → Bool
  | .scalar .null => true
  | _ => false

/-- Everything counts as true but false scalars and what has no parts. -/
def isTrue : Value → Bool
  | .scalar s => s.isTrue
  | .list items => !items.isEmpty
  | .map entries => !entries.isEmpty

/-- A value is equal to a truth value. -/
def sameBool (b : Bool) : Value → Bool
  | .scalar s => s.same (.bool b)
  | _ => false

/-- What counts as true is not the same as false. -/
theorem sameBool_false_of_isTrue {v : Value} (h : v.isTrue = true) :
    v.sameBool false = false := by
  cases v with
  | scalar s =>
    cases s with
    | null => cases h
    | bool b => cases b with
      | false => cases h
      | true => rfl
    | int n =>
      have hn : n ≠ 0 := by simpa [isTrue, Scalar.isTrue] using h
      simpa [sameBool, Scalar.same, Scalar.toInt?] using hn
    | real x =>
      cases hx : x.toInt? with
      | none => simp [sameBool, Scalar.same, Scalar.toInt?, hx]
      | some n =>
        have hn : n ≠ 0 := by
          rintro rfl
          have hnonzero : x.isNonzero = true := h
          rw [Binary64.isNonzero_of_toInt? hx] at hnonzero
          cases hnonzero
        simpa [sameBool, Scalar.same, Scalar.toInt?, hx] using hn
    | text s => rfl
  | list items => rfl
  | map entries => rfl

/-- Stores a value under a key: in the place of an equal key if there is one, at the end
otherwise. -/
def put (key : Scalar) (value : Value) : List (Scalar × Value) → List (Scalar × Value)
  | [] => [(key, value)]
  | (k, v) :: rest => if k.same key then (k, value) :: rest else (k, v) :: put key value rest

/-- The map of the listed entries, where the last value of a key counts, at the key's first
place. -/
def ofEntries (entries : List (Scalar × Value)) : Value :=
  .map (entries.foldl (fun m e => put e.1 e.2 m) [])

/-- The value of a key in the entries of a map. -/
def field? (name : String) (entries : List (Scalar × Value)) : Option Value :=
  (entries.find? fun e => e.1.same (.text name)).map Prod.snd

/-- A map whose keys are texts. -/
def record (fields : List (String × Value)) : Value :=
  .map (fields.map fun (name, v) => (.text name, v))

/-! ## One value for each key -/

/-- No key of a map is there twice. -/
def Distinct (entries : List (Scalar × Value)) : Prop :=
  (entries.map Prod.fst).Pairwise fun k k' => k.same k' = false

/-- If the value is a map, no key of it is there twice. -/
def KeysDiffer (v : Value) : Prop := ∀ entries, v = .map entries → Distinct entries

theorem keysDiffer_scalar (s : Scalar) : KeysDiffer (.scalar s) := fun _ h => by cases h

theorem keysDiffer_list (items : List Value) : KeysDiffer (.list items) := fun _ h => by cases h

theorem keysDiffer_nil : KeysDiffer (.map []) := by
  rintro _ ⟨⟩
  exact .nil

/-- A key stays where it is if there is an equal one, and goes to the end otherwise. -/
theorem keys_put (key : Scalar) (v : Value) (entries : List (Scalar × Value)) :
    (put key v entries).map Prod.fst =
      if entries.any fun e => e.1.same key then entries.map Prod.fst
      else entries.map Prod.fst ++ [key] := by
  induction entries with
  | nil => rfl
  | cons e rest ih =>
    obtain ⟨k, x⟩ := e
    cases hk : k.same key with
    | true => simp [put, hk]
    | false =>
      have hrest : (put key v ((k, x) :: rest)).map Prod.fst =
          k :: (put key v rest).map Prod.fst := by simp [put, hk]
      rw [hrest, ih, List.any_cons, hk, Bool.false_or]
      split <;> rfl

theorem Distinct.put {entries : List (Scalar × Value)} (h : Distinct entries) (key : Scalar)
    (v : Value) : Distinct (put key v entries) := by
  unfold Distinct
  rw [keys_put]
  split
  · exact h
  · rename_i hnew
    refine List.pairwise_append.2 ⟨h, List.pairwise_singleton _ _, fun k hk k' hk' => ?_⟩
    obtain ⟨e, he, rfl⟩ := List.mem_map.1 hk
    rw [List.mem_singleton.1 hk']
    cases hsame : e.1.same key with
    | false => rfl
    | true => exact absurd (List.any_eq_true.2 ⟨e, he, hsame⟩) hnew

/-- A map that is put together entry by entry has no key twice. -/
theorem keysDiffer_ofEntries (entries : List (Scalar × Value)) :
    (ofEntries entries).KeysDiffer := by
  have hfold (m : List (Scalar × Value)) (hm : Distinct m) :
      Distinct (entries.foldl (fun m e => Value.put e.1 e.2 m) m) := by
    induction entries generalizing m with
    | nil => exact hm
    | cons e rest ih => exact ih _ (hm.put e.1 e.2)
  rintro _ ⟨⟩
  exact hfold [] .nil

end Value

end SnapshotViewer
