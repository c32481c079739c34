import SnapshotViewer.Label
import SnapshotViewer.Snapshot.Record

/-!
# Diagrams

A diagram has one figure for each node of a snapshot. A figure has three lines, from the templates
for the full, the reduced and the least size.
-/

namespace SnapshotViewer

/-- The visual counterpart of one node. -/
structure Figure where
  node : Node
  lines : List String
  color : String := "default"
  visible : Bool := true
  block : Option String := none
deriving DecidableEq

/-- The id of the node of a figure. -/
def Figure.id (f : Figure) : Int := f.node.id

/-- The first line of a figure. -/
def Figure.label (f : Figure) : String := f.lines.headD ""

/-- The templates of the three lines. Settings can hold values that are no texts. -/
structure Templates where
  full : Value
  short : Value
  tiny : Value

namespace Templates

/-- A line of a node. Only a text is a template. -/
def line (template : Value) (n : Node) : Except Failure String := do
  return Label.resolve (← template.expectText) (Label.propertiesOf n)

/-- The lines of a node. -/
def lines (t : Templates) (n : Node) : Except Failure (List String) := do
  return [← line t.full n, ← line t.short n, ← line t.tiny n]

end Templates

namespace Figure

/-- The figure of a node of a snapshot. -/
def ofNode (t : Templates) (s : Snapshot) (n : Node) : Except Failure Figure := do
  return { node := n, lines := ← t.lines n, block := s.blockOf? n.id }

/-- The figures of a snapshot, in the order of its nodes. -/
def ofSnapshot (t : Templates) (s : Snapshot) : Except Failure (List Figure) :=
  s.nodeList.mapM (ofNode t s)

/-- The figure of a node. -/
def find? (figures : List Figure) (id : Int) : Option Figure := figures.find? fun f => f.id == id

/-- The figures of the listed nodes, in the order of the diagram. -/
def select (figures : List Figure) (ids : List Int) : List Figure :=
  figures.filter fun f => ids.contains f.id

end Figure

/-- The figures of a snapshot with the mode that they are shown in. Diagrams are told apart by a
serial number. -/
structure Diagram where
  serial : Nat
  graph : SnapshotRef
  figures : List Figure
  controlFlow : Bool := false

end SnapshotViewer
