import SnapshotViewer.Binary64.Shortest
import SnapshotViewer.Numeral
import SnapshotViewer.Text.Quoted
import SnapshotViewer.Value.Basic

/-!
# The text of a value

A value has two texts. The quoted one is a literal: texts stand in marks, lists in square brackets,
maps in curly ones. The plain one differs for texts alone, which stand for themselves.
-/

namespace SnapshotViewer

/-- The literal of a scalar. -/
def Scalar.quoted : Scalar → String
  | .null => "None"
  | .bool b => if b then "True" else "False"
  | .int n => Numeral.write n
  | .real x => x.write
  | .text s => Text.quote s

namespace Value

mutual

/-- The literal of a value. -/
def quoted : Value → String
  | .scalar s => s.quoted
  | .list items => "[" ++ String.intercalate ", " (quotedItems items) ++ "]"
  | .map entries => "\x7b" ++ String.intercalate ", " (quotedEntries entries) ++ "\x7d"

/-- The literals of the items of a list. -/
def quotedItems : List Value → List String
  | [] => []
  | v :: rest => quoted v :: quotedItems rest

/-- The literals of the entries of a map. -/
def quotedEntries : List (Scalar × Value) → List String
  | [] => []
  | (k, v) :: rest => (k.quoted ++ ": " ++ quoted v) :: quotedEntries rest

end

/-- The text of a value: a text itself, the literal of anything else. -/
def plain : Value → String
  | .scalar (.text s) => s
  | v => v.quoted

end Value

end SnapshotViewer
