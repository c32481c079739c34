import SnapshotViewer.Snapshot.Basic

/-!
# Differences

The difference of two snapshots has the nodes and edges of both. Nodes are matched by id, edges by
their ends and terminals. Each carries a state: `same` and `changed` for what both have, `deleted`
for what only the first has, and `new` for what only the second has.
-/

namespace SnapshotViewer.Difference

/-- How a part of a difference relates to the two snapshots. -/
inductive State where
  | same
  | changed
  | added
  | deleted
deriving DecidableEq

/-- The text of a state. -/
def State.text : State → String
  | .same => "same"
  | .changed => "changed"
  | .added => "new"
  | .deleted => "deleted"

/-- The node property that holds the state. -/
def stateProperty : String := "state"

/-- Properties with a state, which overwrites one that is there. -/
def tag (ps : Properties) (state : State) : Properties := ps.insert stateProperty state.text

/-- The properties of a node of the first snapshot in the difference. -/
def tagFirst (b : Snapshot) (id : Int) (ps : Properties) : Properties :=
  match b.nodes.get? id with
  | none => tag ps .deleted
  | some other => tag other (if other.sameEntries ps then .same else .changed)

/-- The nodes of the difference: those of the first snapshot, then those that only the second
has. -/
def nodes (a b : Snapshot) : OrderedMap Int Properties :=
  let fromFirst := a.nodes.entries.map fun (id, ps) => (id, tagFirst b id ps)
  let fromSecond := (b.nodes.entries.filter fun (id, _) => !a.nodes.contains id).map
    fun (id, ps) => (id, tag ps .added)
  .ofList (fromFirst ++ fromSecond)

/-- What edges are matched by. -/
abbrev EdgeKey := Int × Int × Int × Int

/-- The ends and terminals of an edge. -/
def keyOf (e : Edge) : EdgeKey := (e.source, e.target, e.sourceIndex, e.targetIndex)

/-- The edges by their keys: the last edge of a key counts, at the key's first place. -/
def edgeMap (s : Snapshot) : OrderedMap EdgeKey Edge := .ofList (s.edges.map fun e => (keyOf e, e))

/-- The edges of the difference: those of the first snapshot, then those that only the second
has. -/
def edges (a b : Snapshot) : List Edge :=
  let first := edgeMap a
  let second := edgeMap b
  let fromFirst := first.entries.map fun (k, e) =>
    { e with state := (if second.contains k then State.same else State.deleted).text }
  let fromSecond := (second.entries.filter fun (k, _) => !first.contains k).map fun (_, e) =>
    { e with state := State.added.text }
  fromFirst ++ fromSecond

/-- The difference of two snapshots, with the handles of both. -/
def ofPair (freshId : Int) (first second : SnapshotRef) (a b : Snapshot) : Snapshot :=
  { id := freshId
    name := "Difference " ++ a.name ++ " -> " ++ b.name
    nodes := nodes a b
    edges := edges a b
    origin := .difference (some first) (some second) }

end SnapshotViewer.Difference
