import Mathlib.Data.List.Find
import SnapshotViewer.Snapshot.Basic

/-!
# Nodes without a block

The nodes that no block lists are put at the end of the block of strays. `Snapshot.Gathers s added t`
says that this makes `t` of `s`: which ids are added and in what order, and what becomes of each
block and of the order of the blocks. Main statement: collecting the strays gathers exactly them,
whatever the blocks are like (`Snapshot.collectStrays_places`).

Everything else follows from what becomes of the members of each block (`Gathers.members_eq`). A
block that is added lists nothing but strays, so that the first block that holds a node stays the
first (`Gathers.blockOf?_of_notMem`), and no id comes to be listed twice that was not before
(`Gathers.unrepeated_iff`, `Gathers.unshared_iff`).
-/

namespace SnapshotViewer

/-- The key of the first value that satisfies a test, looked for among the keys. -/
theorem OrderedMap.find?_keys {κ υ : Type} [DecidableEq κ] (m : OrderedMap κ υ) (p : υ → Bool) :
    (m.entries.find? fun e => p e.2).map Prod.fst = m.keys.find? fun k => (m.get? k).any p := by
  rw [keys, List.find?_map]
  congr 1
  refine List.find?_congr fun e he => ?_
  rw [Function.comp_apply, get?_of_mem he, Option.any_some]

namespace Snapshot

variable {s t : Snapshot} {added : List Int} {id : Int} {name : String}

/-! ## Members -/

/-- The ids that the block of a name lists. A missing block lists none. -/
def members (s : Snapshot) (name : String) : List Int := ((s.blocks.get? name).getD {}).nodes

theorem mem_members :
    id ∈ s.members name ↔ ∃ b, s.blocks.get? name = some b ∧ id ∈ b.nodes := by
  unfold members
  cases s.blocks.get? name <;> simp

theorem members_of_notMem (h : name ∉ s.blocks.keys) : s.members name = [] := by
  rw [members, OrderedMap.get?_eq_none.2 h, Option.getD_none]

theorem mem_keys_of_mem (h : id ∈ s.members name) : name ∈ s.blocks.keys := by
  by_contra hname
  rw [members_of_notMem hname] at h
  exact List.not_mem_nil h

theorem isPlaced_iff : s.isPlaced id = true ↔ ∃ name, id ∈ s.members name := by
  simp only [mem_members]
  rw [isPlaced, List.any_eq_true]
  constructor
  · rintro ⟨b, hb, hid⟩
    obtain ⟨⟨name, b⟩, hentry, rfl⟩ := List.mem_map.1 hb
    exact ⟨name, b, OrderedMap.get?_of_mem hentry, List.contains_iff_mem.1 hid⟩
  · rintro ⟨name, b, hb, hid⟩
    exact ⟨b, List.mem_map_of_mem (OrderedMap.mem_of_get? hb), List.contains_iff_mem.2 hid⟩

/-- The block of a node is the first one, in the order of the blocks, that has it as a member. -/
theorem blockOf?_eq (s : Snapshot) (id : Int) :
    s.blockOf? id = s.blocks.keys.find? fun name => (s.members name).contains id := by
  rw [blockOf?, OrderedMap.find?_keys s.blocks fun b => b.nodes.contains id]
  congr 1
  funext name
  unfold members
  cases s.blocks.get? name <;> rfl

theorem mem_of_blockOf? (h : s.blockOf? id = some name) : id ∈ s.members name := by
  rw [blockOf?_eq] at h
  have hid := List.find?_some h
  exact List.contains_iff_mem.1 hid

theorem blockOf?_eq_none : s.blockOf? id = none ↔ ∀ name, id ∉ s.members name := by
  rw [blockOf?_eq, List.find?_eq_none]
  constructor
  · exact fun h name hid => h name (mem_keys_of_mem hid) (List.contains_iff_mem.2 hid)
  · exact fun h name _ hid => h name (List.contains_iff_mem.1 hid)

/-- A node has a block as soon as one holds it. -/
theorem isSome_blockOf? : (s.blockOf? id).isSome = s.isPlaced id := by
  rw [Bool.eq_iff_iff, isPlaced_iff, Option.isSome_iff_ne_none, ne_eq, blockOf?_eq_none]
  simp only [not_forall, not_not]

theorem mem_strays : id ∈ s.strays ↔ id ∈ s.nodeIds ∧ ∀ name, id ∉ s.members name := by
  rw [strays, List.mem_filter, Bool.not_eq_true', ← Bool.not_eq_true, isPlaced_iff, not_exists]

/-! ## Gathering -/

/-- `t` is `s` with the ids `added` at the end of the block of strays, and these are the nodes that
were in no block. -/
structure Gathers (s : Snapshot) (added : List Int) (t : Snapshot) : Prop where
  mem_added : ∀ id, id ∈ added ↔ id ∈ s.nodeIds ∧ ∀ name, id ∉ s.members name
  /-- The ids stand in the order of the nodes. -/
  sublist : added.Sublist s.nodeIds
  nodup : added.Nodup
  /-- Nothing but the blocks is changed. -/
  rest : t = { s with blocks := t.blocks }
  /-- The blocks keep their order. The block of strays comes last if it is new, and it is only new
  if there are strays. -/
  keys : t.blocks.keys =
    if strayBlock ∈ s.blocks.keys ∨ added = [] then s.blocks.keys
    else s.blocks.keys ++ [strayBlock]
  others : ∀ name, name ≠ strayBlock → t.blocks.get? name = s.blocks.get? name
  extended : ∀ b, s.blocks.get? strayBlock = some b →
    t.blocks.get? strayBlock = some { b with nodes := b.nodes ++ added }
  created : s.blocks.get? strayBlock = none →
    t.blocks.get? strayBlock = if added = [] then none else some { nodes := added }

/-- The blocks stay, or the block of strays is stored with the strays at its end. -/
theorem blocks_collectStrays (s : Snapshot) :
    s.collectStrays.blocks =
      if s.strays = [] then s.blocks
      else s.blocks.insert strayBlock { (s.blocks.get? strayBlock).getD {} with
        nodes := s.members strayBlock ++ s.strays } := by
  unfold collectStrays
  split
  · rename_i hnone
    rw [if_pos hnone]
  · rename_i hsome
    rw [if_neg hsome]
    rfl

theorem gathers_collectStrays (s : Snapshot) : s.Gathers s.strays s.collectStrays where
  mem_added _ := mem_strays
  sublist := List.filter_sublist
  nodup := s.nodes.nodup_keys.sublist List.filter_sublist
  rest := collectStrays_eq s
  keys := by
    rw [blocks_collectStrays]
    by_cases hnone : s.strays = [] <;> simp [hnone, OrderedMap.keys_insert]
  others name hname := by
    rw [blocks_collectStrays]
    by_cases hnone : s.strays = [] <;> simp [hnone, OrderedMap.get?_insert, hname.symm]
  extended b hb := by
    rw [blocks_collectStrays]
    by_cases hnone : s.strays = [] <;> simp [hnone, OrderedMap.get?_insert, members, hb]
  created hb := by
    rw [blocks_collectStrays]
    by_cases hnone : s.strays = [] <;> simp [hnone, OrderedMap.get?_insert, members, hb]

namespace Gathers

theorem nodeIds_eq (h : s.Gathers added t) : t.nodeIds = s.nodeIds := by
  rw [h.rest]
  rfl

/-- Each block lists what it did, and the block of strays the added ids after that. -/
theorem members_eq (h : s.Gathers added t) (name : String) :
    t.members name = s.members name ++ if name = strayBlock then added else [] := by
  by_cases hname : name = strayBlock
  · subst hname
    rw [if_pos rfl]
    unfold members
    cases hb : s.blocks.get? strayBlock with
    | some b =>
      rw [h.extended b hb]
      rfl
    | none =>
      rw [h.created hb]
      by_cases hadded : added = [] <;> simp [hadded]
  · rw [if_neg hname, List.append_nil, members, h.others name hname, members]

theorem mem_members_iff (h : s.Gathers added t) :
    id ∈ t.members name ↔ id ∈ s.members name ∨ name = strayBlock ∧ id ∈ added := by
  rw [h.members_eq, List.mem_append]
  by_cases hname : name = strayBlock <;> simp [hname]

theorem unlisted (h : s.Gathers added t) (hid : id ∈ added) (name : String) :
    id ∉ s.members name :=
  ((h.mem_added id).1 hid).2 name

/-- Afterwards every node is in some block. -/
theorem placed (h : s.Gathers added t) (hid : id ∈ s.nodeIds) : ∃ name, id ∈ t.members name := by
  by_cases hplaced : ∃ name, id ∈ s.members name
  · obtain ⟨name, hmem⟩ := hplaced
    exact ⟨name, h.mem_members_iff.2 (.inl hmem)⟩
  · have hadded : id ∈ added := (h.mem_added id).2 ⟨hid, not_exists.1 hplaced⟩
    exact ⟨strayBlock, h.mem_members_iff.2 (.inr ⟨rfl, hadded⟩)⟩

/-! ### The block of a node -/

/-- An added id is in the block of strays alone, so that this is its first block. -/
theorem blockOf?_of_mem (h : s.Gathers added t) (hid : id ∈ added) :
    t.blockOf? id = some strayBlock := by
  cases hblock : t.blockOf? id with
  | none =>
    exact absurd (h.mem_members_iff.2 (.inr ⟨rfl, hid⟩)) (blockOf?_eq_none.1 hblock strayBlock)
  | some name =>
    rcases h.mem_members_iff.1 (mem_of_blockOf? hblock) with hbefore | ⟨rfl, -⟩
    · exact absurd hbefore (h.unlisted hid name)
    · rfl

/-- Any other id is in the same blocks as before, and a new block comes after all of them. -/
theorem blockOf?_of_notMem (h : s.Gathers added t) (hid : id ∉ added) :
    t.blockOf? id = s.blockOf? id := by
  have hmembers : (fun name => (t.members name).contains id) =
      fun name => (s.members name).contains id := by
    funext name
    rw [Bool.eq_iff_iff, List.contains_iff_mem, List.contains_iff_mem, h.mem_members_iff]
    exact or_iff_left fun hadded => hid hadded.2
  rw [blockOf?_eq, blockOf?_eq, hmembers, h.keys]
  split
  · rfl
  · rename_i hnew
    have hempty : s.members strayBlock = [] := members_of_notMem fun hkey => hnew (.inl hkey)
    rw [List.find?_append, List.find?_singleton, hempty]
    simp
end Gathers

/-! ### Ids that are listed twice -/

/-- No block lists an id twice. -/
def Unrepeated (s : Snapshot) : Prop := ∀ name, (s.members name).Nodup

/-- No two blocks list the same id. -/
def Unshared (s : Snapshot) : Prop :=
  ∀ name name' id, id ∈ s.members name → id ∈ s.members name' → name = name'

namespace Gathers

theorem unrepeated_iff (h : s.Gathers added t) : t.Unrepeated ↔ s.Unrepeated := by
  refine forall_congr' fun name => ?_
  rw [h.members_eq]
  split
  · rw [List.nodup_append]
    refine ⟨And.left, fun hs => ⟨hs, h.nodup, ?_⟩⟩
    rintro id hid _ hadded rfl
    exact h.unlisted hadded name hid
  · rw [List.append_nil]

theorem unshared_iff (h : s.Gathers added t) : t.Unshared ↔ s.Unshared := by
  constructor
  · intro ht name name' id hname hname'
    exact ht name name' id (h.mem_members_iff.2 (.inl hname)) (h.mem_members_iff.2 (.inl hname'))
  · intro hs name name' id hname hname'
    rcases h.mem_members_iff.1 hname with hname | ⟨rfl, hadded⟩
    · rcases h.mem_members_iff.1 hname' with hname' | ⟨-, hadded⟩
      · exact hs name name' id hname hname'
      · exact absurd hname (h.unlisted hadded name)
    · rcases h.mem_members_iff.1 hname' with hname' | ⟨rfl, -⟩
      · exact absurd hname' (h.unlisted hadded name')
      · rfl

end Gathers

/-! ## Collecting the strays -/

/-- Once the nodes that are left over have their block, every node is in one. -/
theorem isPlaced_collectStrays (hid : id ∈ s.nodeIds) : s.collectStrays.isPlaced id = true :=
  isPlaced_iff.2 ((gathers_collectStrays s).placed hid)

/-- There is nothing to collect where every node is in some block. -/
theorem collectStrays_of_placed (h : ∀ id ∈ s.nodeIds, ∃ name, id ∈ s.members name) :
    s.collectStrays = s := by
  have hnone : s.strays = [] := by
    refine List.eq_nil_iff_forall_not_mem.2 fun id hid => ?_
    obtain ⟨hnode, hunlisted⟩ := mem_strays.1 hid
    obtain ⟨name, hmem⟩ := h id hnode
    exact hunlisted name hmem
  rw [collectStrays_eq, blocks_collectStrays, if_pos hnone]

/-- Collecting the strays of a snapshot, whatever its blocks are like, puts the nodes that no block
lists at the end of the block of strays, each once and in the order of the nodes, and leaves
everything else as it is. Afterwards every node is in some block. A node has another block than
before only if it had none, and then it is the block of strays. Ids are listed twice, in one block
or in two, if and only if they were before. Doing it again changes nothing. -/
theorem collectStrays_places (s : Snapshot) :
    s.Gathers s.strays s.collectStrays ∧
    (∀ id ∈ s.collectStrays.nodeIds, ∃ name b,
      s.collectStrays.blocks.get? name = some b ∧ id ∈ b.nodes) ∧
    (∀ id ∈ s.strays, s.blockOf? id = none ∧ s.collectStrays.blockOf? id = some strayBlock) ∧
    (∀ id, id ∉ s.strays → s.collectStrays.blockOf? id = s.blockOf? id) ∧
    (s.collectStrays.Unrepeated ↔ s.Unrepeated) ∧
    (s.collectStrays.Unshared ↔ s.Unshared) ∧
    s.collectStrays.collectStrays = s.collectStrays := by
  have hgathers := gathers_collectStrays s
  have hplaced (id : Int) (hid : id ∈ s.collectStrays.nodeIds) :
      ∃ name, id ∈ s.collectStrays.members name :=
    hgathers.placed (hgathers.nodeIds_eq ▸ hid)
  refine ⟨hgathers, fun id hid => ?_, fun id hid => ⟨?_, hgathers.blockOf?_of_mem hid⟩,
    fun id hid => hgathers.blockOf?_of_notMem hid, hgathers.unrepeated_iff,
    hgathers.unshared_iff, collectStrays_of_placed hplaced⟩
  · obtain ⟨name, hmem⟩ := hplaced id hid
    exact ⟨name, mem_members.1 hmem⟩
  · exact blockOf?_eq_none.2 (hgathers.unlisted hid)

/-- A block of strays between two others that overlap with it, with an id of no node and with an id
that is listed twice. -/
def overlapping : Snapshot :=
  { id := 0, name := "overlapping"
    nodes := .ofList [(5, .empty), (9, .empty), (2, .empty), (7, .empty)]
    blocks := .ofList [("B0", ⟨[2, 40], ["B1"]⟩), (strayBlock, ⟨[5, 2, 5], ["B0"]⟩),
      ("B1", ⟨[5], []⟩)] }

theorem collectStrays_places_overlapping :
    overlapping.strays = [9, 7] ∧
    overlapping.collectStrays.blocks.get? strayBlock = some ⟨[5, 2, 5, 9, 7], ["B0"]⟩ ∧
    overlapping.collectStrays.blocks.keys = ["B0", strayBlock, "B1"] ∧
    overlapping.collectStrays.blockOf? 9 = some strayBlock ∧
    overlapping.collectStrays.blockOf? 2 = some "B0" ∧
    overlapping.collectStrays.collectStrays = overlapping.collectStrays := by
  have hstrays : overlapping.strays = [9, 7] := by decide +kernel
  obtain ⟨hgathers, -, hcollected, hkept, -, -, htwice⟩ := collectStrays_places overlapping
  rw [hstrays] at hgathers hcollected hkept
  have hblock : overlapping.blocks.get? strayBlock = some ⟨[5, 2, 5], ["B0"]⟩ := by decide +kernel
  have hkeys : overlapping.blocks.keys = ["B0", strayBlock, "B1"] := by decide +kernel
  have hfirst : overlapping.blockOf? 2 = some "B0" := by decide +kernel
  refine ⟨hstrays, hgathers.extended _ hblock, ?_, (hcollected 9 (by decide)).2,
    (hkept 2 (by decide)).trans hfirst, htwice⟩
  rw [hgathers.keys, if_pos (.inl (by simp [hkeys])), hkeys]

end Snapshot

end SnapshotViewer
