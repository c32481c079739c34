import SnapshotViewer.Snapshot.Basic
import SnapshotViewer.Value.Text

/-!
# Snapshots as records

`toRecord` writes a snapshot as a value of a data file and `ofRecord` reads one. Reading turns ids
into integers and property values into texts, lets the last of two nodes or blocks with one key
count, and fails on the first part that has the wrong form.

The other fields have one kind of value each: names, labels and states are texts, and so are the
successors of a block; terminal indices and the nodes of a block are integers. A record with another
kind of value there is refused, because a snapshot could not hold it. The keys of properties are
texts; a key that is none counts as the text that is written for it.
-/

namespace SnapshotViewer

namespace Value

/-- The parts of a value that can be gone through: the items of a list, the characters of a text,
the keys of a map. -/
def parts : Value → Except Failure (List Value)
  | .list items => .ok items
  | .map entries => .ok (entries.map fun (k, _) => .scalar k)
  | .scalar (.text s) => .ok (s.toList.map fun c => .text (String.singleton c))
  | .scalar _ => .error .wrongType

/-- The integer that a value stands for: the numeral of a text, the integer part of a number. -/
def toInteger : Value → Except Failure Int
  | .scalar (.bool b) => .ok (if b then 1 else 0)
  | .scalar (.int n) => .ok n
  | .scalar (.real x) =>
    match x.truncate? with
    | some n => .ok n
    | none => .error .wrongType
  | .scalar (.text s) =>
    match Numeral.read s with
    | some n => .ok n
    | none => .error (.badNumeral s)
  | _ => .error .wrongType

/-- A text. -/
def expectText : Value → Except Failure String
  | .scalar (.text s) => .ok s
  | _ => .error .wrongType

/-- An integer. -/
def expectInt : Value → Except Failure Int
  | .scalar (.int n) => .ok n
  | .scalar (.bool b) => .ok (if b then 1 else 0)
  | _ => .error .wrongType

/-- The entries of a map, or the given failure. -/
def expectMap (otherwise : Failure) : Value → Except Failure (List (Scalar × Value))
  | .map entries => .ok entries
  | _ => .error otherwise

end Value

namespace Snapshot

/-- The fields of a record, with their values. -/
abbrev Fields := List (Scalar × Value)

/-- A field that has to be there. -/
def required (fields : Fields) (name : String) : Except Failure Value :=
  match Value.field? name fields with
  | some v => .ok v
  | none => .error (.missingKey name)

/-- The parts of a field; a missing field has none. -/
def optionalParts (fields : Fields) (name : String) : Except Failure (List Value) :=
  match Value.field? name fields with
  | some v => v.parts
  | none => .ok []

/-- The text of a key. For a key that is no text it is what is written for the key. -/
def keyText (k : Scalar) : String := (Value.scalar k).plain

/-- Names that a node property cannot have. -/
def reservedNames : List String := ["self", "node_id"]

/-- The properties of a node: keys and values become texts, and two names are refused. -/
def readProperties (fields : Fields) : Except Failure Properties :=
  let entries := fields.map fun (k, v) => (keyText k, v.plain)
  if entries.any fun (k, _) => reservedNames.contains k then .error .wrongType
  else .ok (.ofList entries)

/-- Reads a node and stores it. -/
def readNode (s : Snapshot) (v : Value) : Except Failure Snapshot := do
  let fields ← v.expectMap .wrongType
  let id ← (← required fields "id").toInteger
  let properties ← match Value.field? "properties" fields with
    | some ps => ps.expectMap .wrongType
    | none => .ok []
  return s.addNode id (← readProperties properties)

/-- A field of an edge that counts from zero. -/
def terminalIndex (fields : Fields) (name : String) : Except Failure Int :=
  match Value.field? name fields with
  | some v => v.expectInt
  | none => .ok 0

/-- A field that holds a text, the empty one if it is missing. -/
def textField (fields : Fields) (name : String) : Except Failure String :=
  match Value.field? name fields with
  | some v => v.expectText
  | none => .ok ""

/-- Reads an edge and appends it. -/
def readEdge (s : Snapshot) (v : Value) : Except Failure Snapshot := do
  let fields ← v.expectMap .wrongType
  let source ← (← required fields "from").toInteger
  let target ← (← required fields "to").toInteger
  let sourceIndex ← terminalIndex fields "from_index"
  let targetIndex ← terminalIndex fields "to_index"
  let label ← textField fields "label"
  let state ← textField fields "state"
  s.addEdge { source, target, sourceIndex, targetIndex, label, state }

/-- Names that the options of an edge cannot have, because its ends are given apart. -/
def reservedOptions : List String := ["self", "source", "target"]

/-- The options that an edge has. -/
def edgeOptions : List String := ["source_index", "target_index", "label", "state"]

/-- Appends an edge with the listed options. A reserved name is refused before the ends are looked
at, an unknown one after that. -/
def addEdgeWith (s : Snapshot) (source target : Int) (options : Fields) :
    Except Failure (Snapshot × Edge) := do
  let names := options.map fun (k, _) => keyText k
  if names.any reservedOptions.contains then throw .wrongType
  if !s.joins { source, target } then throw .danglingEdge
  if !names.all edgeOptions.contains then throw .wrongType
  let edge : Edge :=
    { source, target
      sourceIndex := ← terminalIndex options "source_index"
      targetIndex := ← terminalIndex options "target_index"
      label := ← textField options "label"
      state := ← textField options "state" }
  return (← s.addEdge edge, edge)

/-- Reads a block and stores it. -/
def readBlock (s : Snapshot) (v : Value) : Except Failure Snapshot := do
  let fields ← v.expectMap .wrongType
  let name ← (← required fields "name").expectText
  let nodes ← (← optionalParts fields "nodes").mapM Value.expectInt
  let successors ← (← optionalParts fields "successors").mapM Value.expectText
  return { s with blocks := s.blocks.insert name { nodes, successors } }

/-- Reads a snapshot. The given id counts where the record has none. A name, label, state, index or
member of a block that is not of its kind makes this fail. -/
def ofRecord (freshId : Int) (origin : Origin) (v : Value) : Except Failure Snapshot := do
  let fields ← v.expectMap .noSuchMember
  let name ← textField fields "name"
  let id ← match Value.field? "id" fields with
    | some v => v.toInteger
    | none => .ok freshId
  let properties ← match Value.field? "properties" fields with
    | some ps => ps.expectMap .noSuchMember
    | none => .ok []
  let s : Snapshot :=
    { id, name, origin
      properties := .ofList (properties.map fun (k, v) => (keyText k, .text v.plain)) }
  let s ← (← optionalParts fields "nodes").foldlM readNode s
  let s ← (← optionalParts fields "edges").foldlM readEdge s
  (← optionalParts fields "blocks").foldlM readBlock s

/-- Properties as a record. -/
def writeProperties (ps : Properties) : Value :=
  .record (ps.entries.map fun (k, v) => (k, .text v))

/-- A node as a record. -/
def writeNode (n : Node) : Value :=
  .record [("id", .int n.id), ("properties", writeProperties n.properties)]

/-- An edge as a record. -/
def writeEdge (e : Edge) : Value :=
  .record [("from", .int e.source), ("to", .int e.target), ("from_index", .int e.sourceIndex),
    ("to_index", .int e.targetIndex), ("label", .text e.label), ("state", .text e.state)]

/-- A block as a record. -/
def writeBlock (name : String) (b : Block) : Value :=
  .record [("name", .text name), ("nodes", .list (b.nodes.map fun n => .int n)),
    ("successors", .list (b.successors.map fun n => .text n))]

/-- A snapshot as a record. The two snapshots that a difference was computed from are not part of
it. -/
def toRecord (s : Snapshot) : Value :=
  .record [("id", .int s.id), ("name", .text s.name), ("properties", .record s.properties.entries),
    ("nodes", .list (s.nodeList.map writeNode)), ("edges", .list (s.edges.map writeEdge)),
    ("blocks", .list (s.blocks.entries.map fun (name, b) => writeBlock name b))]

end Snapshot

end SnapshotViewer
