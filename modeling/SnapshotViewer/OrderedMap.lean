/-!
# Maps in insertion order

A map lists its entries in the order in which the keys were first inserted; a later value for the
same key takes the place of the earlier one. The keys are pairwise distinct by construction.

`get?_insert` describes a look-up after an insertion, `keys_insert` the order of the keys; for a list
of entries these become `get?_ofList` and `keys_ofList`. A map is rebuilt by its entries
(`ofList_entries`).
-/

namespace SnapshotViewer

universe u v

/-- A map whose entries stand in the order in which the keys were first inserted. -/
structure OrderedMap (κ : Type u) (υ : Type v) where
  /-- The entries, in order. -/
  entries : List (κ × υ)
  /-- No key is listed twice. -/
  nodup_keys : (entries.map Prod.fst).Nodup
deriving DecidableEq

namespace OrderedMap

variable {κ : Type u} {υ : Type v}

theorem eq_of_entries {m n : OrderedMap κ υ} (h : m.entries = n.entries) : m = n := by
  cases m
  cases n
  cases h
  rfl

/-- The map without entries. -/
def empty : OrderedMap κ υ := ⟨[], List.nodup_nil⟩

instance : Inhabited (OrderedMap κ υ) := ⟨empty⟩

/-- The keys, in order. -/
def keys (m : OrderedMap κ υ) : List κ := m.entries.map Prod.fst

/-- The values, in the order of their keys. -/
def values (m : OrderedMap κ υ) : List υ := m.entries.map Prod.snd

/-- The number of entries. -/
def size (m : OrderedMap κ υ) : Nat := m.entries.length

/-- No entry is there. -/
def isEmpty (m : OrderedMap κ υ) : Bool := m.entries.isEmpty

variable [DecidableEq κ]

/-- The value stored first under a key in a list of entries. -/
def find? (k : κ) : List (κ × υ) → Option υ
  | [] => none
  | (k', v) :: rest => if k' = k then some v else find? k rest

/-- Overwrites the value of a listed key, and appends an entry for a new one. -/
def put (k : κ) (v : υ) : List (κ × υ) → List (κ × υ)
  | [] => [(k, v)]
  | (k', v') :: rest => if k' = k then (k', v) :: rest else (k', v') :: put k v rest

theorem keys_put (k : κ) (v : υ) (l : List (κ × υ)) :
    (put k v l).map Prod.fst =
      if k ∈ l.map Prod.fst then l.map Prod.fst else l.map Prod.fst ++ [k] := by
  induction l with
  | nil => simp [put]
  | cons e rest ih =>
    obtain ⟨k', v'⟩ := e
    by_cases h : k' = k
    · subst h
      simp [put]
    · have h' : ¬ k = k' := fun e => h e.symm
      by_cases hk : k ∈ rest.map Prod.fst <;> simp_all [put]

theorem nodup_keys_put (k : κ) (v : υ) {l : List (κ × υ)} (h : (l.map Prod.fst).Nodup) :
    ((put k v l).map Prod.fst).Nodup := by
  rw [keys_put]
  split
  · exact h
  · rename_i hk
    rw [List.nodup_append]
    exact ⟨h, by simp, fun a ha b hb e => hk (by simp_all)⟩

theorem find?_put (k k' : κ) (v : υ) (l : List (κ × υ)) :
    find? k' (put k v l) = if k = k' then some v else find? k' l := by
  induction l with
  | nil => simp [put, find?]
  | cons e rest ih =>
    obtain ⟨a, b⟩ := e
    by_cases h : a = k
    · subst h
      by_cases h' : a = k' <;> simp [put, find?, h']
    · by_cases h' : a = k'
      · subst h'
        have : ¬ k = a := fun e => h e.symm
        simp [put, find?, h, this]
      · simp [put, find?, h, h', ih]

theorem isSome_find? {k : κ} {l : List (κ × υ)} :
    (find? k l).isSome = true ↔ k ∈ l.map Prod.fst := by
  induction l with
  | nil => simp [find?]
  | cons e rest ih =>
    obtain ⟨k', v'⟩ := e
    by_cases h : k' = k
    · simp [find?, h]
    · simp [find?, h, ih, Ne.symm h]

theorem mem_of_find? {k : κ} {v : υ} {l : List (κ × υ)} (h : find? k l = some v) : (k, v) ∈ l := by
  induction l with
  | nil => cases h
  | cons e rest ih => grind [find?]

theorem mem_of_mem_put {k : κ} {v : υ} {l : List (κ × υ)} {e : κ × υ} (h : e ∈ put k v l) :
    e = (k, v) ∨ e ∈ l := by
  induction l with
  | nil => simpa [put] using h
  | cons e' rest ih => grind [put]

/-- An entry for a new key goes to the end. -/
theorem put_of_notMem {k : κ} (v : υ) {l : List (κ × υ)} (h : k ∉ l.map Prod.fst) :
    put k v l = l ++ [(k, v)] := by
  induction l with
  | nil => rfl
  | cons e rest ih =>
    obtain ⟨k', v'⟩ := e
    have hne : ¬ k' = k := fun hk => h (by simp [hk])
    have hrest : k ∉ rest.map Prod.fst := fun hk => h (by simp [hk])
    simp [put, hne, ih hrest]

theorem find?_append (k : κ) (l l' : List (κ × υ)) :
    find? k (l ++ l') = (find? k l).or (find? k l') := by
  induction l with
  | nil => simp [find?]
  | cons e rest ih =>
    obtain ⟨k', v'⟩ := e
    by_cases h : k' = k <;> simp [find?, h, ih]

/-- Values that are computed from their keys and the values before. -/
theorem find?_map {υ' : Type v} (f : κ → υ → υ') (k : κ) (l : List (κ × υ)) :
    find? k (l.map fun e => (e.1, f e.1 e.2)) = (find? k l).map (f k) := by
  induction l with
  | nil => rfl
  | cons e rest ih =>
    obtain ⟨k', v'⟩ := e
    by_cases h : k' = k
    · subst h
      simp [find?]
    · simp [find?, h, ih]

/-- Entries that are kept or dropped for their keys. -/
theorem find?_filter (keep : κ → Bool) (k : κ) (l : List (κ × υ)) :
    find? k (l.filter fun e => keep e.1) = if keep k then find? k l else none := by
  induction l with
  | nil => simp [find?]
  | cons e rest ih =>
    obtain ⟨k', v'⟩ := e
    by_cases h : k' = k
    · subst h
      by_cases hk : keep k' = true <;> simp_all [find?]
    · by_cases hk : keep k' = true <;> simp_all [find?]

/-- An entry is found by its key if no other has it. -/
theorem find?_of_mem {k : κ} {v : υ} {l : List (κ × υ)} (hnodup : (l.map Prod.fst).Nodup)
    (h : (k, v) ∈ l) : find? k l = some v := by
  induction l with
  | nil => cases h
  | cons e rest ih =>
    rw [List.map_cons, List.nodup_cons] at hnodup
    rcases List.mem_cons.1 h with rfl | h
    · simp [find?]
    · have hne : ¬ e.1 = k := fun he => hnodup.1 (List.mem_map.2 ⟨_, h, he.symm⟩)
      simp [find?, hne, ih hnodup.2 h]

/-- The value stored under a key. -/
def get? (m : OrderedMap κ υ) (k : κ) : Option υ := find? k m.entries

/-- Some value is stored under the key. -/
def contains (m : OrderedMap κ υ) (k : κ) : Bool := (m.get? k).isSome

/-- Stores a value: in the place of the key if it is there, at the end otherwise. -/
def insert (m : OrderedMap κ υ) (k : κ) (v : υ) : OrderedMap κ υ :=
  ⟨put k v m.entries, nodup_keys_put k v m.nodup_keys⟩

theorem get?_insert (m : OrderedMap κ υ) (k k' : κ) (v : υ) :
    (m.insert k v).get? k' = if k = k' then some v else m.get? k' :=
  find?_put k k' v m.entries

theorem keys_insert (m : OrderedMap κ υ) (k : κ) (v : υ) :
    (m.insert k v).keys = if k ∈ m.keys then m.keys else m.keys ++ [k] :=
  keys_put k v m.entries

theorem mem_of_get? {m : OrderedMap κ υ} {k : κ} {v : υ} (h : m.get? k = some v) :
    (k, v) ∈ m.entries :=
  mem_of_find? h

theorem get?_of_mem {m : OrderedMap κ υ} {k : κ} {v : υ} (h : (k, v) ∈ m.entries) :
    m.get? k = some v :=
  find?_of_mem m.nodup_keys h

theorem get?_eq_none {m : OrderedMap κ υ} {k : κ} : m.get? k = none ↔ k ∉ m.keys := by
  rw [← Option.not_isSome_iff_eq_none]
  exact not_congr isSome_find?

theorem contains_eq_true {m : OrderedMap κ υ} {k : κ} : m.contains k = true ↔ k ∈ m.keys :=
  isSome_find?

theorem mem_keys {m : OrderedMap κ υ} {k : κ} : k ∈ m.keys ↔ ∃ v, m.get? k = some v := by
  rw [← contains_eq_true, contains, Option.isSome_iff_exists]

theorem contains_insert (m : OrderedMap κ υ) (k k' : κ) (v : υ) :
    (m.insert k v).contains k' = true ↔ k = k' ∨ m.contains k' = true := by
  unfold contains
  rw [get?_insert]
  split <;> simp_all

theorem mem_of_mem_insert {m : OrderedMap κ υ} {k : κ} {v : υ} {e : κ × υ}
    (h : e ∈ (m.insert k v).entries) : e = (k, v) ∨ e ∈ m.entries :=
  mem_of_mem_put h

/-- Inserts entries one after the other. -/
def insertAll (m : OrderedMap κ υ) (entries : List (κ × υ)) : OrderedMap κ υ :=
  entries.foldl (fun m e => m.insert e.1 e.2) m

/-- The map in which the last value of each key counts, at the key's first place. -/
def ofList (entries : List (κ × υ)) : OrderedMap κ υ := empty.insertAll entries

theorem mem_of_mem_insertAll {l : List (κ × υ)} {m : OrderedMap κ υ} {e : κ × υ}
    (h : e ∈ (m.insertAll l).entries) : e ∈ m.entries ∨ e ∈ l := by
  induction l generalizing m with
  | nil => exact .inl h
  | cons e' rest ih =>
    rcases ih h with h | h
    · rcases mem_of_mem_insert h with rfl | h
      · simp
      · exact .inl h
    · exact .inr (List.mem_cons_of_mem _ h)

theorem mem_of_mem_ofList {l : List (κ × υ)} {e : κ × υ} (h : e ∈ (ofList l).entries) : e ∈ l := by
  rcases mem_of_mem_insertAll h with h | h
  · cases h
  · exact h

theorem contains_insertAll {l : List (κ × υ)} {m : OrderedMap κ υ} {k : κ} :
    (m.insertAll l).contains k = true ↔ m.contains k = true ∨ k ∈ l.map Prod.fst := by
  induction l generalizing m with
  | nil => simp [insertAll]
  | cons e rest ih =>
    refine (ih (m := m.insert e.1 e.2)).trans ?_
    rw [contains_insert, List.map_cons, List.mem_cons]
    grind

theorem contains_ofList {l : List (κ × υ)} {k : κ} :
    (ofList l).contains k = true ↔ k ∈ l.map Prod.fst := by
  refine contains_insertAll.trans ?_
  simp [contains, get?, empty, find?]

/-- Entries with new keys that differ from one another are appended as they stand. -/
theorem entries_insertAll {l : List (κ × υ)} {m : OrderedMap κ υ}
    (h : ((m.entries ++ l).map Prod.fst).Nodup) : (m.insertAll l).entries = m.entries ++ l := by
  induction l generalizing m with
  | nil => exact (List.append_nil _).symm
  | cons e rest ih =>
    have hnew : e.1 ∉ m.entries.map Prod.fst := by
      rw [List.map_append, List.nodup_append] at h
      exact fun hk => h.2.2 _ hk e.1 (by simp) rfl
    have hput : (m.insert e.1 e.2).entries = m.entries ++ [e] := put_of_notMem e.2 hnew
    have happend : (m.insert e.1 e.2).entries ++ rest = m.entries ++ e :: rest := by simp [hput]
    exact (ih (by rwa [happend])).trans happend

/-- A map is rebuilt by its entries. -/
theorem ofList_entries (m : OrderedMap κ υ) : ofList m.entries = m :=
  eq_of_entries (entries_insertAll (m := empty) m.nodup_keys)

/-- Entries that differ in their keys make a map as they stand. -/
theorem entries_ofList {l : List (κ × υ)} (h : (l.map Prod.fst).Nodup) : (ofList l).entries = l :=
  entries_insertAll (m := empty) h

/-- The last value that is listed for a key takes the place of the one before. -/
theorem get?_insertAll (l : List (κ × υ)) (m : OrderedMap κ υ) (k : κ) :
    (m.insertAll l).get? k =
      (((l.filter fun e => e.1 = k).getLast?).map Prod.snd).or (m.get? k) := by
  induction l generalizing m with
  | nil => simp [insertAll]
  | cons e rest ih =>
    refine (ih (m.insert e.1 e.2)).trans ?_
    rw [get?_insert]
    by_cases h : e.1 = k
    · cases hlast : (rest.filter fun e => e.1 = k).getLast? <;>
        simp [h, hlast, List.getLast?_cons]
    · simp [h]

theorem get?_ofList (l : List (κ × υ)) (k : κ) :
    (ofList l).get? k = ((l.filter fun e => e.1 = k).getLast?).map Prod.snd := by
  refine (get?_insertAll l empty k).trans ?_
  simp [get?, empty, find?]

/-- New keys follow those that are there, each at its first place. -/
theorem keys_insertAll [BEq κ] [LawfulBEq κ] (l : List (κ × υ)) (m : OrderedMap κ υ) :
    (m.insertAll l).keys =
      m.keys ++ ((l.map Prod.fst).filter fun k => k ∉ m.keys).eraseDups := by
  induction l generalizing m with
  | nil => simp [insertAll]
  | cons e rest ih =>
    refine (ih (m.insert e.1 e.2)).trans ?_
    rw [keys_insert]
    by_cases h : e.1 ∈ m.keys
    · simp [h]
    · have hrest : (rest.map Prod.fst).filter (fun k => k ∉ m.keys ++ [e.1]) =
          ((rest.map Prod.fst).filter fun k => k ∉ m.keys).filter fun k => !k == e.1 := by
        rw [List.filter_filter]
        refine List.filter_congr fun k _ => ?_
        by_cases hk : k = e.1 <;> simp [hk]
      rw [if_neg h, hrest, List.map_cons, List.filter_cons_of_pos (by simpa using h),
        List.eraseDups_cons, List.append_assoc, List.singleton_append]

theorem keys_ofList [BEq κ] [LawfulBEq κ] (l : List (κ × υ)) :
    (ofList l).keys = (l.map Prod.fst).eraseDups := by
  have hnew : (l.map Prod.fst).filter (fun k => k ∉ (empty : OrderedMap κ υ).keys) =
      l.map Prod.fst := List.filter_eq_self.2 fun k _ => by simp [keys, empty]
  refine (keys_insertAll l empty).trans ?_
  rw [hnew]
  rfl

theorem nodup_eraseDups [BEq κ] [LawfulBEq κ] (l : List κ) : l.eraseDups.Nodup := by
  have hkeys := keys_ofList (l.map fun k => (k, ()))
  rw [List.map_map, Function.comp_def, List.map_id'] at hkeys
  rw [← hkeys]
  exact nodup_keys _

/-- The same keys have the same values, whatever the order. -/
def sameEntries [DecidableEq υ] (m n : OrderedMap κ υ) : Bool :=
  m.size == n.size && m.entries.all fun (k, v) => n.get? k == some v

end OrderedMap

end SnapshotViewer
