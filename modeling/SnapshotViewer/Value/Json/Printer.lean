import SnapshotViewer.Binary64.Shortest
import SnapshotViewer.Numeral
import SnapshotViewer.Value.Basic

/-!
# Writing JSON text

Strings escape the mark, the backslash and the controls. Keys that are not texts are written as the
text of their value.
-/

namespace SnapshotViewer.Json

/-- A hexadecimal numeral of four digits. -/
def hex4 (n : Nat) : List Char :=
  let digits := Nat.toDigits 16 n
  List.replicate (4 - digits.length) '0' ++ digits

/-- How one character is written between marks. -/
def escape (c : Char) : List Char :=
  if c = '"' ∨ c = '\\' then ['\\', c]
  else if c.toNat < 0x20 ∨ c.toNat = 0x7f then '\\' :: 'u' :: hex4 c.toNat
  else [c]

/-- A string with its marks. -/
def writeString (s : String) : String := String.ofList ('"' :: s.toList.flatMap escape ++ ['"'])

/-- A number that is not an integer. -/
def writeReal : Binary64 → String
  | .notANumber => "NaN"
  | .infinite negative => if negative then "-Infinity" else "Infinity"
  | x => x.write

/-- A value without parts. -/
def writeScalar : Scalar → String
  | .null => "null"
  | .bool b => if b then "true" else "false"
  | .int n => Numeral.write n
  | .real x => writeReal x
  | .text s => writeString s

/-- The key of a field. -/
def writeKey : Scalar → String
  | .text s => writeString s
  | k => writeString (writeScalar k)

mutual

/-- A value. -/
def write : Value → String
  | .scalar s => writeScalar s
  | .list items => "[" ++ String.intercalate ", " (writeItems items) ++ "]"
  | .map entries => "\x7b" ++ String.intercalate ", " (writeFields entries) ++ "\x7d"

/-- The items of an array. -/
def writeItems : List Value → List String
  | [] => []
  | v :: rest => write v :: writeItems rest

/-- The fields of an object. -/
def writeFields : List (Scalar × Value) → List String
  | [] => []
  | (k, v) :: rest => (writeKey k ++ ": " ++ write v) :: writeFields rest

end

end SnapshotViewer.Json
