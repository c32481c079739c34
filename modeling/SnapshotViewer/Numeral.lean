import SnapshotViewer.Text.Blank
import SnapshotViewer.Text.Digit

/-!
# Integer numerals

The text of an integer is a sign and its decimal digits. Reading is more generous than writing:
blanks around the numeral, a plus sign, digits of any script and a single low line between two
digits are accepted.
-/

namespace SnapshotViewer.Numeral

open Text

/-- The decimal digits of a natural number, the leading one first. -/
def digitsOf (n : Nat) : List Char := Nat.toDigits 10 n

/-- The decimal text of an integer. -/
def write (n : Int) : String :=
  match n with
  | .ofNat m => String.ofList (digitsOf m)
  | .negSucc m => String.ofList ('-' :: digitsOf (m + 1))

/-- Blanks that may stand around a numeral: of the characters below 128 the space and the five
controls from the tabulator to the carriage return, above that all white space. -/
def isMargin (c : Char) : Bool :=
  if c.toNat < 128 then c == ' ' || (9 ≤ c.toNat && c.toNat ≤ 13) else isBlank c

/-- Removes margins at both ends. -/
def trim (s : List Char) : List Char :=
  ((s.dropWhile isMargin).reverse.dropWhile isMargin).reverse

/-- Reads digits to the end, with a single low line allowed between two of them. The accumulator
holds the value of the digits so far. -/
def readDigits (value : Nat) : List Char → Option Nat
  | [] => some value
  | '_' :: c :: rest => do readDigits (value * 10 + (← digitValue? c)) rest
  | c :: rest => do readDigits (value * 10 + (← digitValue? c)) rest

/-- Reads a numeral without sign: the first character has to be a digit. -/
def readNat : List Char → Option Nat
  | [] => none
  | c :: rest => do readDigits (← digitValue? c) rest

/-- Reads an integer numeral. -/
def read (s : String) : Option Int :=
  match trim s.toList with
  | '-' :: rest => (readNat rest).map fun n => -(n : Int)
  | '+' :: rest => (readNat rest).map fun n => (n : Int)
  | rest => (readNat rest).map fun n => (n : Int)

end SnapshotViewer.Numeral
