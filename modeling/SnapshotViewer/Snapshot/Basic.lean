import SnapshotViewer.Failure
import SnapshotViewer.OrderedMap
import SnapshotViewer.Value.Basic

/-!
# Snapshots

A snapshot is one capture of a compiler graph: nodes with text properties, edges between terminals
of nodes, and control-flow blocks. Nodes are stored under their ids and blocks under their names,
both in the order in which they were first added.

Snapshots are told apart by handles and not by content: two captures with equal content are two
positions of their group.
-/

namespace SnapshotViewer

/-- The handle of a snapshot. -/
abbrev SnapshotRef := Nat

/-- The handle of a group. -/
abbrev GroupRef := Nat

/-- The text properties of a node. -/
abbrev Properties := OrderedMap String String

/-- A node with the id it is stored under. -/
structure Node where
  id : Int
  properties : Properties
deriving DecidableEq

/-- Nodes are the same when their ids are and their properties are, in whatever order. -/
def Node.same (a b : Node) : Bool := a.id == b.id && a.properties.sameEntries b.properties

/-- A directed edge between numbered terminals of two nodes. -/
structure Edge where
  source : Int
  target : Int
  sourceIndex : Int := 0
  targetIndex : Int := 0
  label : String := ""
  state : String := ""
deriving DecidableEq

/-- A control-flow block: the nodes it groups and the names of the blocks that follow it. -/
structure Block where
  nodes : List Int := []
  successors : List String := []
deriving DecidableEq

/-- Where a snapshot comes from: captured, or computed from two others. -/
inductive Origin where
  | captured
  | difference (first second : Option SnapshotRef)
deriving DecidableEq

/-- One capture of a compiler graph, or the difference of two. -/
structure Snapshot where
  id : Int
  name : String
  properties : OrderedMap String Value := .empty
  nodes : OrderedMap Int Properties := .empty
  edges : List Edge := []
  blocks : OrderedMap String Block := .empty
  origin : Origin := .captured
  /-- The group that the snapshot was added to last. -/
  group : Option GroupRef := none

namespace Snapshot

/-- The property that marks a snapshot as identical to its predecessor. -/
def duplicateProperty : String := "_isDuplicate"

/-- The block of the nodes that no other block holds. -/
def strayBlock : String := "(no block)"

/-- The ids of the nodes, in order. -/
def nodeIds (s : Snapshot) : List Int := s.nodes.keys

/-- The node with an id. -/
def node? (s : Snapshot) (id : Int) : Option Node := (s.nodes.get? id).map (⟨id, ·⟩)

/-- The nodes, in order. -/
def nodeList (s : Snapshot) : List Node := s.nodes.entries.map fun (id, ps) => ⟨id, ps⟩

/-- Stores a node, in the place of a node with the same id. -/
def addNode (s : Snapshot) (id : Int) (properties : Properties) : Snapshot :=
  { s with nodes := s.nodes.insert id properties }

/-- Both ends of an edge are nodes of the snapshot. -/
def joins (s : Snapshot) (e : Edge) : Bool := s.nodes.contains e.source && s.nodes.contains e.target

/-- Appends an edge between two nodes of the snapshot. -/
def addEdge (s : Snapshot) (e : Edge) : Except Failure Snapshot :=
  if s.joins e then .ok { s with edges := s.edges ++ [e] } else .error .danglingEdge

/-- Stores a block without successors, in the place of a block with the same name. -/
def addBlock (s : Snapshot) (name : String) (nodes : List Int) : Snapshot :=
  { s with blocks := s.blocks.insert name { nodes } }

/-- Removes all blocks. -/
def clearBlocks (s : Snapshot) : Snapshot := { s with blocks := .empty }

/-- Stores a property. -/
def setProperty (s : Snapshot) (key : String) (v : Value) : Snapshot :=
  { s with properties := s.properties.insert key v }

/-- The first block that holds a node. -/
def blockOf? (s : Snapshot) (id : Int) : Option String :=
  (s.blocks.entries.find? fun (_, b) => b.nodes.contains id).map Prod.fst

/-- Some block holds the node. -/
def isPlaced (s : Snapshot) (id : Int) : Bool := s.blocks.values.any (·.nodes.contains id)

/-- The nodes that no block holds, in order. -/
def strays (s : Snapshot) : List Int := s.nodeIds.filter fun id => !s.isPlaced id

/-- Puts every node without a block at the end of the block of strays, which is added if it is
needed. -/
def collectStrays (s : Snapshot) : Snapshot :=
  match s.strays with
  | [] => s
  | strays =>
    let block := (s.blocks.get? strayBlock).getD {}
    { s with blocks := s.blocks.insert strayBlock { block with nodes := block.nodes ++ strays } }

/-- The snapshot is marked as identical to its predecessor. A missing value marks nothing. -/
def isDuplicate (s : Snapshot) : Bool :=
  match s.properties.get? duplicateProperty with
  | some v => !v.isNull
  | none => false

/-- The snapshot was computed from two others. -/
def isDifference (s : Snapshot) : Bool :=
  match s.origin with
  | .captured => false
  | .difference _ _ => true

end Snapshot

theorem collectStrays_eq (s : Snapshot) :
    s.collectStrays = { s with blocks := s.collectStrays.blocks } := by
  unfold Snapshot.collectStrays
  split <;> rfl

end SnapshotViewer
