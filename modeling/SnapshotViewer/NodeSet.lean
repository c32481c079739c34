/-!
# Sets of node ids

A set of node ids is kept as its members in ascending order, so that two sets with the same members
are equal.
-/

namespace SnapshotViewer

/-- A set of node ids. -/
structure NodeSet where
  /-- The members, ascending. -/
  toList : List Int
  /-- Every member is below the ones after it. -/
  sorted : toList.Pairwise (· < ·)
deriving DecidableEq

namespace NodeSet

/-- Adds an id to an ascending list, unless it is there. -/
def place (x : Int) : List Int → List Int
  | [] => [x]
  | y :: rest => if x < y then x :: y :: rest else if x = y then y :: rest else y :: place x rest

theorem mem_place {x z : Int} {l : List Int} : z ∈ place x l ↔ z = x ∨ z ∈ l := by
  induction l with
  | nil => simp [place]
  | cons y rest ih => grind [place]

theorem sorted_place {x : Int} {l : List Int} (h : l.Pairwise (· < ·)) :
    (place x l).Pairwise (· < ·) := by
  induction l with
  | nil => simp [place]
  | cons y rest ih =>
    rw [List.pairwise_cons] at h
    unfold place
    split
    · rename_i hxy
      rw [List.pairwise_cons, List.pairwise_cons]
      refine ⟨fun z hz => ?_, h⟩
      rcases List.mem_cons.1 hz with rfl | hz
      · exact hxy
      · exact Int.lt_trans hxy (h.1 z hz)
    · split
      · exact List.pairwise_cons.2 h
      · rw [List.pairwise_cons]
        refine ⟨fun z hz => ?_, ih h.2⟩
        rcases mem_place.1 hz with rfl | hz
        · omega
        · exact h.1 z hz

/-- The set without members. -/
def empty : NodeSet := ⟨[], List.Pairwise.nil⟩

instance : Inhabited NodeSet := ⟨empty⟩

instance : Membership Int NodeSet := ⟨fun s x => x ∈ s.toList⟩

instance (x : Int) (s : NodeSet) : Decidable (x ∈ s) := inferInstanceAs (Decidable (x ∈ s.toList))

/-- Adds a member. -/
def insert (s : NodeSet) (x : Int) : NodeSet := ⟨place x s.toList, sorted_place s.sorted⟩

theorem mem_insert {s : NodeSet} {x z : Int} : z ∈ s.insert x ↔ z = x ∨ z ∈ s := mem_place

/-- The set of the listed ids. -/
def ofList (ids : List Int) : NodeSet := ids.foldl insert empty

theorem mem_foldl_insert {ids : List Int} {s : NodeSet} {z : Int} :
    z ∈ ids.foldl insert s ↔ z ∈ s ∨ z ∈ ids := by
  induction ids generalizing s with
  | nil => simp
  | cons x rest ih =>
    rw [List.foldl_cons, ih, mem_insert, List.mem_cons]
    grind

theorem mem_ofList {ids : List Int} {z : Int} : z ∈ ofList ids ↔ z ∈ ids := by
  rw [ofList, mem_foldl_insert]
  exact or_iff_right List.not_mem_nil

/-- The members that satisfy a test. -/
def filter (s : NodeSet) (keep : Int → Bool) : NodeSet :=
  ⟨s.toList.filter keep, s.sorted.filter keep⟩

/-- The members of the first set that are not listed. -/
def without (s : NodeSet) (ids : List Int) : NodeSet := s.filter fun x => !ids.contains x

end NodeSet

end SnapshotViewer
