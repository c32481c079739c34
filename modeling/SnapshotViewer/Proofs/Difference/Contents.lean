import Mathlib.Data.List.Perm.Subperm
import SnapshotViewer.Proofs.Action.Outcome
import SnapshotViewer.Proofs.Snapshot.RoundTrip

/-!
# What a difference shows

`Compares a b d` says of a difference `d` which nodes and edges it has, in which order, and with
which states, properties and labels. Comparing two snapshots has such a difference as its result,
and comparing them the other way round shows the same with `new` and `deleted` exchanged
(`makeDifference_compares`).

Nodes are compared with all their properties, edges by their keys alone. So a difference that shows
everything as `same` leaves open which labels the edges have and how many of them run in parallel
(`allSame_hides`), and nothing else (`allSame_iff`).
-/

namespace SnapshotViewer

namespace OrderedMap

variable {κ υ : Type} [DecidableEq κ] [DecidableEq υ]

/-- The comparison of two maps looks every key up in both. -/
theorem sameEntries_eq_true {m n : OrderedMap κ υ} :
    m.sameEntries n = true ↔ ∀ k, m.get? k = n.get? k := by
  rw [sameEntries, Bool.and_eq_true, beq_iff_eq, List.all_eq_true]
  constructor
  · rintro ⟨hsize, hall⟩ k
    have hfound (k : κ) (v : υ) (h : m.get? k = some v) : n.get? k = some v := by
      simpa using hall _ (mem_of_get? h)
    have hsubset : m.keys ⊆ n.keys := by
      intro k hk
      obtain ⟨v, hv⟩ := mem_keys.1 hk
      exact mem_keys.2 ⟨v, hfound k v hv⟩
    -- the second map has no room for another key
    have hkeys : m.keys.Perm n.keys :=
      (List.Nodup.subperm m.nodup_keys hsubset).perm_of_length_le (by simp_all [keys, size])
    cases h : m.get? k with
    | some v => exact (hfound k v h).symm
    | none =>
      rw [get?_eq_none, hkeys.mem_iff] at h
      exact (get?_eq_none.2 h).symm
  · intro h
    have hkeys : m.keys.Perm n.keys := by
      refine (List.perm_ext_iff_of_nodup m.nodup_keys n.nodup_keys).2 fun k => ?_
      change k ∈ m.keys ↔ k ∈ n.keys
      rw [mem_keys, mem_keys, h]
    refine ⟨by simpa [keys, size] using hkeys.length_eq, fun e he => ?_⟩
    simp [← h, get?_of_mem he]

theorem sameEntries_comm (m n : OrderedMap κ υ) : m.sameEntries n = n.sameEntries m := by
  rw [Bool.eq_iff_iff, sameEntries_eq_true, sameEntries_eq_true]
  exact forall_congr' fun k => eq_comm

end OrderedMap

namespace Difference

variable {a b : Snapshot} {id : Int} {k : EdgeKey}

/-! ## States -/

/-- The state of a part when the two snapshots change places. -/
def State.mirror : State → State
  | .same => .same
  | .changed => .changed
  | .added => .deleted
  | .deleted => .added

theorem State.text_inj {s t : State} : s.text = t.text ↔ s = t := by
  cases s <;> cases t <;> decide

/-- The state that a difference shows at a node. -/
def nodeState? (d : Snapshot) (id : Int) : Option String :=
  (d.nodes.get? id).bind (·.get? stateProperty)

/-- The state that a difference shows at an edge with the key. -/
def edgeState? (d : Snapshot) (k : EdgeKey) : Option String :=
  (d.edges.find? fun e => keyOf e = k).map Edge.state

/-- The state of a node id in a comparison. -/
def nodeStatus? (a b : Snapshot) (id : Int) : Option State :=
  match a.nodes.get? id, b.nodes.get? id with
  | some ps, some qs => some (if ps.sameEntries qs then .same else .changed)
  | some _, none => some .deleted
  | none, some _ => some .added
  | none, none => none

/-- The keys of the edges, one for each edge. -/
def edgeKeys (s : Snapshot) : List EdgeKey := s.edges.map keyOf

/-- The state of an edge key in a comparison. -/
def edgeStatus? (a b : Snapshot) (k : EdgeKey) : Option State :=
  if k ∈ edgeKeys a then some (if k ∈ edgeKeys b then .same else .deleted)
  else if k ∈ edgeKeys b then some .added else none

theorem nodeStatus?_swap (a b : Snapshot) (id : Int) :
    nodeStatus? b a id = (nodeStatus? a b id).map State.mirror := by
  unfold nodeStatus?
  cases a.nodes.get? id <;> cases b.nodes.get? id
  case some.some ps qs =>
    have hcomm := OrderedMap.sameEntries_comm qs ps
    by_cases h : ps.sameEntries qs = true <;> simp [hcomm, h, State.mirror]
  all_goals rfl

theorem edgeStatus?_swap (a b : Snapshot) (k : EdgeKey) :
    edgeStatus? b a k = (edgeStatus? a b k).map State.mirror := by
  unfold edgeStatus?
  by_cases ha : k ∈ edgeKeys a <;> by_cases hb : k ∈ edgeKeys b <;> simp [ha, hb, State.mirror]

/-! ## Nodes -/

theorem get?_tag (ps : Properties) (state : State) :
    (tag ps state).get? stateProperty = some state.text := by
  simp [tag, OrderedMap.get?_insert]

/-- The properties besides the state, in order. -/
def others (ps : Properties) : List (String × String) :=
  ps.entries.filter fun e => e.1 ≠ stateProperty

theorem others_tag (ps : Properties) (state : State) : others (tag ps state) = others ps := by
  have hput (l : List (String × String)) :
      (OrderedMap.put stateProperty state.text l).filter (fun e => e.1 ≠ stateProperty) =
        l.filter fun e => e.1 ≠ stateProperty := by
    induction l with
    | nil => simp [OrderedMap.put]
    | cons e rest ih =>
      by_cases h : e.1 = stateProperty
      · simp [OrderedMap.put, h]
      · simpa [OrderedMap.put, h] using ih
  exact hput ps.entries

theorem entries_nodes (a b : Snapshot) : (nodes a b).entries =
    a.nodes.entries.map (fun e => (e.1, tagFirst b e.1 e.2)) ++
      (b.nodes.entries.filter fun e => !a.nodes.contains e.1).map
        fun e => (e.1, tag e.2 .added) := by
  refine OrderedMap.entries_ofList ?_
  rw [List.map_append, List.map_map, List.map_map, List.nodup_append]
  refine ⟨a.nodes.nodup_keys, (b.nodes.nodup_keys.sublist (List.filter_sublist.map _)), ?_⟩
  rintro x hx y hy rfl
  obtain ⟨e, he, rfl⟩ := List.mem_map.1 hy
  have hnew : e.1 ∉ a.nodes.keys := by
    simpa [← OrderedMap.contains_eq_true] using (List.mem_filter.1 he).2
  exact hnew hx

theorem keys_nodes (a b : Snapshot) :
    (nodes a b).keys = a.nodeIds ++ b.nodeIds.filter fun id => id ∉ a.nodeIds := by
  have hkeep (e : Int × Properties) :
      (!a.nodes.contains e.1) = decide (e.1 ∉ a.nodes.keys) := by
    rw [Bool.eq_iff_iff, Bool.not_eq_true', Bool.eq_false_iff, decide_eq_true_eq]
    exact not_congr OrderedMap.contains_eq_true
  change (nodes a b).entries.map Prod.fst = _ ++ List.filter _ (b.nodes.entries.map Prod.fst)
  simp only [entries_nodes, hkeep, List.map_append, List.map_map, List.filter_map]
  rfl

theorem get?_nodes (a b : Snapshot) (id : Int) : (nodes a b).get? id =
    match a.nodes.get? id with
    | some ps => some (tagFirst b id ps)
    | none => (b.nodes.get? id).map (tag · .added) := by
  rw [OrderedMap.get?, entries_nodes, OrderedMap.find?_append, OrderedMap.find?_map (tagFirst b),
    OrderedMap.find?_map (fun _ ps => tag ps .added),
    OrderedMap.find?_filter (fun id => !a.nodes.contains id)]
  change ((a.nodes.get? id).map _).or (Option.map _ (if _ then b.nodes.get? id else none)) = _
  cases h : a.nodes.get? id <;> simp [OrderedMap.contains, h]

variable (freshId : Int) (first second : SnapshotRef)

theorem nodeState?_ofPair (a b : Snapshot) (id : Int) :
    nodeState? (ofPair freshId first second a b) id = (nodeStatus? a b id).map State.text := by
  change ((nodes a b).get? id).bind (·.get? stateProperty) = _
  rw [get?_nodes, nodeStatus?]
  cases a.nodes.get? id <;> cases hb : b.nodes.get? id
  case some.some ps qs => simp [get?_tag, tagFirst, hb, OrderedMap.sameEntries_comm ps qs]
  all_goals simp [get?_tag, tagFirst, hb]

/-- The node of a difference has the properties that it has in the second snapshot, or else in the
first. -/
theorem others_of_get?_nodes {ps : Properties} (h : (nodes a b).get? id = some ps) :
    ∃ qs, (b.nodes.get? id).or (a.nodes.get? id) = some qs ∧ others ps = others qs := by
  rw [get?_nodes] at h
  cases ha : a.nodes.get? id <;> cases hb : b.nodes.get? id <;>
    simp only [ha, hb, tagFirst, Option.map_some, Option.map_none, Option.some.injEq,
      reduceCtorEq] at h <;> subst h <;> exact ⟨_, rfl, others_tag _ _⟩

/-! ## Edges -/

/-- The last edge with a key. -/
def lastEdge? (s : Snapshot) (k : EdgeKey) : Option Edge :=
  (s.edges.filter fun e => keyOf e = k).getLast?

theorem get?_edgeMap (s : Snapshot) (k : EdgeKey) : (edgeMap s).get? k = lastEdge? s k := by
  rw [edgeMap, OrderedMap.get?_ofList, List.filter_map, List.getLast?_map, Option.map_map]
  exact congrFun Option.map_id _

theorem keys_edgeMap (s : Snapshot) : (edgeMap s).keys = (edgeKeys s).eraseDups := by
  rw [edgeMap, OrderedMap.keys_ofList, List.map_map]
  rfl

theorem contains_edgeMap {s : Snapshot} : (edgeMap s).contains k = true ↔ k ∈ edgeKeys s := by
  rw [OrderedMap.contains_eq_true, keys_edgeMap, List.mem_eraseDups]

/-- The edges are listed under their own keys. -/
theorem keyOf_of_mem_edgeMap {s : Snapshot} {x : EdgeKey × Edge} (h : x ∈ (edgeMap s).entries) :
    keyOf x.2 = x.1 := by
  obtain ⟨e, -, rfl⟩ := List.mem_map.1 (OrderedMap.mem_of_mem_ofList h)
  rfl

theorem edgeKeys_ofPair (a b : Snapshot) : edgeKeys (ofPair freshId first second a b) =
    (edgeKeys a).eraseDups ++ (edgeKeys b).eraseDups.filter fun k => k ∉ edgeKeys a := by
  have hfirst : (edgeMap a).entries.map (fun x => keyOf x.2) = (edgeMap a).keys :=
    List.map_congr_left fun x hx => keyOf_of_mem_edgeMap hx
  have hsecond (keep : EdgeKey → Bool) :
      ((edgeMap b).entries.filter fun x => keep x.1).map (fun x => keyOf x.2) =
        (edgeMap b).keys.filter keep := by
    rw [OrderedMap.keys, List.filter_map]
    exact List.map_congr_left fun x hx => keyOf_of_mem_edgeMap (List.mem_filter.1 hx).1
  have hkeep : (fun k => !(edgeMap a).contains k) = fun k => decide (k ∉ edgeKeys a) := by
    funext k
    rw [Bool.eq_iff_iff, Bool.not_eq_true', Bool.eq_false_iff, decide_eq_true_eq]
    exact not_congr contains_edgeMap
  change (edges a b).map keyOf = _
  unfold edges
  rw [List.map_append, List.map_map, List.map_map, ← keys_edgeMap, ← keys_edgeMap, ← hkeep,
    ← hsecond, ← hfirst]
  rfl

theorem mem_edgeKeys_ofPair : k ∈ edgeKeys (ofPair freshId first second a b) ↔
    k ∈ edgeKeys a ∨ k ∈ edgeKeys b := by
  rw [edgeKeys_ofPair, List.mem_append, List.mem_filter, List.mem_eraseDups, List.mem_eraseDups]
  by_cases ha : k ∈ edgeKeys a <;> simp [ha]

theorem nodup_edgeKeys_ofPair (a b : Snapshot) :
    (edgeKeys (ofPair freshId first second a b)).Nodup := by
  rw [edgeKeys_ofPair, List.nodup_append]
  refine ⟨OrderedMap.nodup_eraseDups _, (OrderedMap.nodup_eraseDups _).filter _, ?_⟩
  rintro x hx y hy rfl
  have hnew : x ∉ edgeKeys a := by simpa using (List.mem_filter.1 hy).2
  exact hnew (List.mem_eraseDups.1 hx)

/-- An edge of a difference shows the state of its key. The rest of it is the last edge with the key
in the first snapshot, or else in the second. -/
theorem edge_of_mem {e : Edge} (h : e ∈ edges a b) :
    (edgeStatus? a b (keyOf e)).map State.text = some e.state ∧
      ∃ e', (lastEdge? a (keyOf e)).or (lastEdge? b (keyOf e)) = some e' ∧
        e = { e' with state := e.state } := by
  have hlast {s : Snapshot} {x : EdgeKey × Edge} (hx : x ∈ (edgeMap s).entries) :
      lastEdge? s x.1 = some x.2 ∧ x.1 ∈ edgeKeys s := by
    have hget := OrderedMap.get?_of_mem hx
    refine ⟨get?_edgeMap s x.1 ▸ hget, contains_edgeMap.1 ?_⟩
    rw [OrderedMap.contains, hget, Option.isSome_some]
  rcases List.mem_append.1 h with h | h
  · obtain ⟨x, hx, rfl⟩ := List.mem_map.1 h
    have hkey (state : String) : keyOf { x.2 with state } = x.1 := keyOf_of_mem_edgeMap hx
    obtain ⟨hfound, hlisted⟩ := hlast hx
    rw [hkey, hfound]
    refine ⟨?_, x.2, rfl, rfl⟩
    by_cases hb : x.1 ∈ edgeKeys b
    · simp [edgeStatus?, hlisted, hb, contains_edgeMap.2 hb]
    · simp [edgeStatus?, hlisted, hb, mt contains_edgeMap.1 hb]
  · obtain ⟨x, hx, rfl⟩ := List.mem_map.1 h
    rw [List.mem_filter, Bool.not_eq_true', Bool.eq_false_iff] at hx
    have hkey (state : String) : keyOf { x.2 with state } = x.1 := keyOf_of_mem_edgeMap hx.1
    obtain ⟨hfound, hlisted⟩ := hlast hx.1
    have hnew : x.1 ∉ edgeKeys a := mt contains_edgeMap.2 hx.2
    have hnone : lastEdge? a x.1 = none := by
      rw [← get?_edgeMap, OrderedMap.get?_eq_none, ← OrderedMap.contains_eq_true]
      exact hx.2
    rw [hkey, hfound, hnone]
    exact ⟨by simp [edgeStatus?, hnew, hlisted], x.2, rfl, rfl⟩

theorem edgeState?_ofPair (a b : Snapshot) (k : EdgeKey) :
    edgeState? (ofPair freshId first second a b) k = (edgeStatus? a b k).map State.text := by
  rw [edgeState?]
  cases h : (ofPair freshId first second a b).edges.find? fun e => keyOf e = k with
  | none =>
    have hnone : k ∉ edgeKeys (ofPair freshId first second a b) := by
      rintro hk
      obtain ⟨e, he, rfl⟩ := List.mem_map.1 hk
      simpa using List.find?_eq_none.1 h e he
    rw [mem_edgeKeys_ofPair, not_or] at hnone
    simp [edgeStatus?, hnone]
  | some e =>
    have hkey : keyOf e = k := by simpa using List.find?_some h
    rw [← hkey]
    exact (edge_of_mem (List.mem_of_find?_eq_some h)).1.symm

/-! ## Differences -/

/-- What the difference `d` of two snapshots has. -/
structure Compares (a b d : Snapshot) : Prop where
  nodeIds : d.nodeIds = a.nodeIds ++ b.nodeIds.filter fun id => id ∉ a.nodeIds
  nodup_nodeIds : d.nodeIds.Nodup
  node_deleted : ∀ id, nodeState? d id = some "deleted" ↔ id ∈ a.nodeIds ∧ id ∉ b.nodeIds
  node_new : ∀ id, nodeState? d id = some "new" ↔ id ∉ a.nodeIds ∧ id ∈ b.nodeIds
  node_same : ∀ id, nodeState? d id = some "same" ↔
    ∃ ps qs, a.nodes.get? id = some ps ∧ b.nodes.get? id = some qs ∧ ∀ k, ps.get? k = qs.get? k
  node_changed : ∀ id, nodeState? d id = some "changed" ↔
    ∃ ps qs, a.nodes.get? id = some ps ∧ b.nodes.get? id = some qs ∧ ∃ k, ps.get? k ≠ qs.get? k
  properties : ∀ id ps, d.nodes.get? id = some ps →
    ∃ qs, (b.nodes.get? id).or (a.nodes.get? id) = some qs ∧ others ps = others qs
  edgeKeys : edgeKeys d =
    (edgeKeys a).eraseDups ++ (edgeKeys b).eraseDups.filter fun k => k ∉ edgeKeys a
  nodup_edgeKeys : (Difference.edgeKeys d).Nodup
  edge_same : ∀ e ∈ d.edges, e.state = "same" ↔
    keyOf e ∈ Difference.edgeKeys a ∧ keyOf e ∈ Difference.edgeKeys b
  edge_deleted : ∀ e ∈ d.edges, e.state = "deleted" ↔
    keyOf e ∈ Difference.edgeKeys a ∧ keyOf e ∉ Difference.edgeKeys b
  edge_new : ∀ e ∈ d.edges, e.state = "new" ↔
    keyOf e ∉ Difference.edgeKeys a ∧ keyOf e ∈ Difference.edgeKeys b
  label : ∀ e ∈ d.edges,
    ((lastEdge? a (keyOf e)).or (lastEdge? b (keyOf e))).map Edge.label = some e.label
  joined : d.Joined

/-- A node shows a state if and only if this is its state in the comparison. -/
theorem nodeState?_eq {s : State} :
    nodeState? (ofPair freshId first second a b) id = some s.text ↔ nodeStatus? a b id = some s := by
  rw [nodeState?_ofPair, Option.map_eq_some_iff]
  simp [State.text_inj]

theorem edgeStatus?_eq {e : Edge} (h : e ∈ edges a b) {s : State} :
    e.state = s.text ↔ edgeStatus? a b (keyOf e) = some s := by
  obtain ⟨t, ht, htext⟩ := Option.map_eq_some_iff.1 (edge_of_mem h).1
  rw [ht, ← htext, State.text_inj, Option.some.injEq]

theorem nodeStatus?_eq_deleted :
    nodeStatus? a b id = some .deleted ↔ id ∈ a.nodeIds ∧ id ∉ b.nodeIds := by
  rw [Snapshot.nodeIds, Snapshot.nodeIds, ← OrderedMap.get?_eq_none,
    ← OrderedMap.contains_eq_true, OrderedMap.contains, nodeStatus?]
  cases a.nodes.get? id <;> cases b.nodes.get? id <;> simp [ite_eq_iff]

theorem nodeStatus?_eq_added :
    nodeStatus? a b id = some .added ↔ id ∉ a.nodeIds ∧ id ∈ b.nodeIds := by
  rw [Snapshot.nodeIds, Snapshot.nodeIds, ← OrderedMap.get?_eq_none,
    ← OrderedMap.contains_eq_true, OrderedMap.contains, nodeStatus?]
  cases a.nodes.get? id <;> cases b.nodes.get? id <;> simp [ite_eq_iff]

theorem nodeStatus?_eq_same : nodeStatus? a b id = some .same ↔
    ∃ ps qs, a.nodes.get? id = some ps ∧ b.nodes.get? id = some qs ∧
      ∀ k, ps.get? k = qs.get? k := by
  unfold nodeStatus?
  cases a.nodes.get? id <;> cases b.nodes.get? id <;>
    simp [OrderedMap.sameEntries_eq_true]

theorem nodeStatus?_eq_changed : nodeStatus? a b id = some .changed ↔
    ∃ ps qs, a.nodes.get? id = some ps ∧ b.nodes.get? id = some qs ∧
      ∃ k, ps.get? k ≠ qs.get? k := by
  unfold nodeStatus?
  cases a.nodes.get? id <;> cases b.nodes.get? id <;>
    simp [OrderedMap.sameEntries_eq_true]

theorem edgeStatus?_eq_same :
    edgeStatus? a b k = some .same ↔ k ∈ edgeKeys a ∧ k ∈ edgeKeys b := by
  by_cases ha : k ∈ edgeKeys a <;> by_cases hb : k ∈ edgeKeys b <;> simp [edgeStatus?, ha, hb]

theorem edgeStatus?_eq_deleted :
    edgeStatus? a b k = some .deleted ↔ k ∈ edgeKeys a ∧ k ∉ edgeKeys b := by
  by_cases ha : k ∈ edgeKeys a <;> by_cases hb : k ∈ edgeKeys b <;> simp [edgeStatus?, ha, hb]

theorem edgeStatus?_eq_added :
    edgeStatus? a b k = some .added ↔ k ∉ edgeKeys a ∧ k ∈ edgeKeys b := by
  by_cases ha : k ∈ edgeKeys a <;> by_cases hb : k ∈ edgeKeys b <;> simp [edgeStatus?, ha, hb]

theorem compares_ofPair (ha : a.Joined) (hb : b.Joined) :
    Compares a b (ofPair freshId first second a b) where
  nodeIds := keys_nodes a b
  nodup_nodeIds := (nodes a b).nodup_keys
  node_deleted _ := (nodeState?_eq _ _ _ (s := .deleted)).trans nodeStatus?_eq_deleted
  node_new _ := (nodeState?_eq _ _ _ (s := .added)).trans nodeStatus?_eq_added
  node_same _ := (nodeState?_eq _ _ _ (s := .same)).trans nodeStatus?_eq_same
  node_changed _ := (nodeState?_eq _ _ _ (s := .changed)).trans nodeStatus?_eq_changed
  properties _ _ := others_of_get?_nodes
  edgeKeys := edgeKeys_ofPair _ _ _ a b
  nodup_edgeKeys := nodup_edgeKeys_ofPair _ _ _ a b
  edge_same _ he := (edgeStatus?_eq he (s := .same)).trans edgeStatus?_eq_same
  edge_deleted _ he := (edgeStatus?_eq he (s := .deleted)).trans edgeStatus?_eq_deleted
  edge_new _ he := (edgeStatus?_eq he (s := .added)).trans edgeStatus?_eq_added
  label e he := by
    obtain ⟨e', hlast, he'⟩ := (edge_of_mem he).2
    rw [hlast, he']
    rfl
  joined := ha.ofPair hb freshId first second

/-! ### The other way round -/

/-- What is shown for a state when the two snapshots change places. -/
def mirrored (text : String) : String :=
  if text = "new" then "deleted" else if text = "deleted" then "new" else text

theorem mirrored_text (s : State) : mirrored s.text = s.mirror.text := by
  cases s <;> decide

theorem nodeState?_swap (freshId' : Int) (first' second' : SnapshotRef) (a b : Snapshot)
    (id : Int) : nodeState? (ofPair freshId' first' second' b a) id =
      (nodeState? (ofPair freshId first second a b) id).map mirrored := by
  rw [nodeState?_ofPair, nodeState?_ofPair, nodeStatus?_swap, Option.map_map, Option.map_map]
  exact congrArg (Option.map · _) (funext fun s => (mirrored_text s).symm)

theorem edgeState?_swap (freshId' : Int) (first' second' : SnapshotRef) (a b : Snapshot)
    (k : EdgeKey) : edgeState? (ofPair freshId' first' second' b a) k =
      (edgeState? (ofPair freshId first second a b) k).map mirrored := by
  rw [edgeState?_ofPair, edgeState?_ofPair, edgeStatus?_swap, Option.map_map, Option.map_map]
  exact congrArg (Option.map · _) (funext fun s => (mirrored_text s).symm)

/-- Two nodes and some edges between them. -/
def arrows (edges : List Edge) : Snapshot :=
  { id := 0, name := "arrows", nodes := .ofList [(1, .empty), (2, .empty)], edges }

/-- Comparing two snapshots succeeds and leaves all that is there as it was. The new snapshot shows
how they differ, and the one of the comparison the other way round has the same states with `new`
and `deleted` exchanged. -/
theorem makeDifference_compares {w : World} {first second : SnapshotRef}
    (hfirst : w.snapshots[first]? = some a) (hsecond : w.snapshots[second]? = some b)
    (ha : a.Joined) (hb : b.Joined) : ∃ d d',
      (Act.makeDifference first second).runIn w = some (.ok w.snapshots.length, w.archive d) ∧
      (Act.makeDifference second first).runIn w = some (.ok w.snapshots.length, w.archive d') ∧
      (w.archive d).snapshots[w.snapshots.length]? = some d ∧
      (∀ (r : SnapshotRef) (s : Snapshot), w.snapshots[r]? = some s →
        (w.archive d).snapshots[r]? = some s) ∧
      Compares a b d ∧ Compares b a d' ∧
      (∀ id, nodeState? d' id = (nodeState? d id).map mirrored) ∧
      ∀ k, edgeState? d' k = (edgeState? d k).map mirrored := by
  have hrun {first second : SnapshotRef} {a b : Snapshot} (ha : w.snapshots[first]? = some a)
      (hb : w.snapshots[second]? = some b) : (Act.makeDifference first second).runIn w =
        some (.ok w.snapshots.length, w.archive (ofPair w.nextId first second a b)) := by
    rw [Act.makeDifference, Act.runIn_bind_ok (Act.runIn_snapshot ha),
      Act.runIn_bind_ok (Act.runIn_snapshot hb)]
    rfl
  refine ⟨_, _, hrun hfirst hsecond, hrun hsecond hfirst, ?_, fun r s hr => ?_,
    compares_ofPair _ _ _ ha hb, compares_ofPair _ _ _ hb ha,
    nodeState?_swap _ _ _ _ _ _ a b, edgeState?_swap _ _ _ _ _ _ a b⟩
  · simp [World.archive]
  · rw [World.archive, List.getElem?_append_left (List.getElem?_eq_some_iff.1 hr).1, hr]

/-- An edge is gone and a new node is there. -/
theorem makeDifference_compares_arrows :
    let a := arrows [⟨1, 2, 0, 0, "x", ""⟩]
    let b := (arrows []).addNode 3 .empty
    let w : World := { snapshots := [a, b] }
    a.Joined ∧ b.Joined ∧ ∃ d, (Act.makeDifference 0 1).runIn w = some (.ok 2, w.archive d) ∧
      Compares a b d := by
  intro a b w
  have ha : a.Joined := by unfold Snapshot.Joined; decide +kernel
  have hb : b.Joined := by unfold Snapshot.Joined; decide +kernel
  obtain ⟨d, -, hd, -, -, -, hcompares, -⟩ :=
    makeDifference_compares (show w.snapshots[0]? = some a from rfl)
      (show w.snapshots[1]? = some b from rfl) ha hb
  exact ⟨ha, hb, d, hd, hcompares⟩

/-! ### Nothing to see -/

/-- What tells edges apart. -/
def signature (e : Edge) : EdgeKey × String := (keyOf e, e.label)

/-- Everything in a difference is shown as `same`. -/
def AllSame (d : Snapshot) : Prop :=
  (∀ id ∈ d.nodeIds, nodeState? d id = some "same") ∧ ∀ e ∈ d.edges, e.state = "same"

instance (d : Snapshot) : Decidable (AllSame d) := inferInstanceAs (Decidable (_ ∧ _))

theorem mem_nodeIds_ofPair : id ∈ (ofPair freshId first second a b).nodeIds ↔
    id ∈ a.nodeIds ∨ id ∈ b.nodeIds := by
  simp only [Snapshot.nodeIds, ← OrderedMap.contains_eq_true]
  exact Snapshot.contains_nodes

/-- A difference shows everything as `same` if and only if the snapshots have the same nodes with
equal properties and edges with the same keys. A node with another state is in one of the snapshots
only or has changed, an edge with another state has a key of one of them only. -/
theorem allSame_iff (a b : Snapshot) :
    (AllSame (ofPair freshId first second a b) ↔
      (∀ id, id ∈ a.nodeIds ↔ id ∈ b.nodeIds) ∧
      (∀ id ps qs, a.nodes.get? id = some ps → b.nodes.get? id = some qs →
        ∀ k, ps.get? k = qs.get? k) ∧
      ∀ k, k ∈ edgeKeys a ↔ k ∈ edgeKeys b) ∧
    (∀ id, nodeState? (ofPair freshId first second a b) id = some "same" ↔
      ∃ ps qs, a.nodes.get? id = some ps ∧ b.nodes.get? id = some qs ∧
        ∀ k, ps.get? k = qs.get? k) ∧
    ∀ e ∈ (ofPair freshId first second a b).edges, e.state = "same" ↔
      keyOf e ∈ edgeKeys a ∧ keyOf e ∈ edgeKeys b := by
  have hnode (id : Int) : nodeState? (ofPair freshId first second a b) id = some "same" ↔
      ∃ ps qs, a.nodes.get? id = some ps ∧ b.nodes.get? id = some qs ∧
        ∀ k, ps.get? k = qs.get? k :=
    (nodeState?_eq freshId first second (s := .same)).trans nodeStatus?_eq_same
  have hedge (e : Edge) (he : e ∈ edges a b) : e.state = "same" ↔
      keyOf e ∈ edgeKeys a ∧ keyOf e ∈ edgeKeys b :=
    (edgeStatus?_eq he (s := .same)).trans edgeStatus?_eq_same
  refine ⟨⟨?_, ?_⟩, hnode, hedge⟩
  · rintro ⟨hnodes, hedges⟩
    have hboth (id : Int) (h : id ∈ a.nodeIds ∨ id ∈ b.nodeIds) :=
      (hnode id).1 (hnodes id ((mem_nodeIds_ofPair _ _ _).2 h))
    have hkeys (k : EdgeKey) (h : k ∈ edgeKeys a ∨ k ∈ edgeKeys b) :
        k ∈ edgeKeys a ∧ k ∈ edgeKeys b := by
      obtain ⟨e, he, rfl⟩ := List.mem_map.1 ((mem_edgeKeys_ofPair freshId first second).2 h)
      exact (hedge e he).1 (hedges e he)
    refine ⟨fun id => ⟨fun h => ?_, fun h => ?_⟩, fun id ps qs hps hqs => ?_, fun k => ?_⟩
    · obtain ⟨ps, qs, -, hqs, -⟩ := hboth id (.inl h)
      exact OrderedMap.mem_keys.2 ⟨qs, hqs⟩
    · obtain ⟨ps, qs, hps, -, -⟩ := hboth id (.inr h)
      exact OrderedMap.mem_keys.2 ⟨ps, hps⟩
    · obtain ⟨ps', qs', hps', hqs', hagree⟩ := hboth id (.inl (OrderedMap.mem_keys.2 ⟨ps, hps⟩))
      cases hps.symm.trans hps'
      cases hqs.symm.trans hqs'
      exact hagree
    · exact ⟨fun h => (hkeys k (.inl h)).2, fun h => (hkeys k (.inr h)).1⟩
  · rintro ⟨hids, hagree, hkeys⟩
    refine ⟨fun id h => ?_, fun e he => ?_⟩
    · have hfirst : id ∈ a.nodeIds := by
        rcases (mem_nodeIds_ofPair _ _ _).1 h with h | h
        · exact h
        · exact (hids id).2 h
      obtain ⟨ps, hps⟩ := OrderedMap.mem_keys.1 hfirst
      obtain ⟨qs, hqs⟩ := OrderedMap.mem_keys.1 ((hids id).1 hfirst)
      exact (hnode id).2 ⟨ps, qs, hps, hqs, hagree id ps qs hps hqs⟩
    · have hfirst : keyOf e ∈ edgeKeys a := by
        rcases (mem_edgeKeys_ofPair freshId first second).1 (List.mem_map_of_mem he) with h | h
        · exact h
        · exact (hkeys _).2 h
      exact (hedge e he).2 ⟨hfirst, (hkeys _).1 hfirst⟩

/-- Another label and another edge between the same terminals do not show. -/
theorem allSame_hides :
    let plain := arrows [⟨1, 2, 0, 0, "x", ""⟩]
    let relabelled := arrows [⟨1, 2, 0, 0, "y", ""⟩]
    let doubled := arrows [⟨1, 2, 0, 0, "x", ""⟩, ⟨1, 2, 0, 0, "x", ""⟩]
    plain.Joined ∧ relabelled.Joined ∧ doubled.Joined ∧
      AllSame (ofPair 2 0 1 plain relabelled) ∧ AllSame (ofPair 2 0 1 plain doubled) ∧
      ¬ (plain.edges.map signature).Perm (relabelled.edges.map signature) ∧
      ¬ (plain.edges.map signature).Perm (doubled.edges.map signature) := by
  unfold Snapshot.Joined
  decide +kernel

end Difference

end SnapshotViewer
