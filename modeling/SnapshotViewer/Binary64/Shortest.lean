import SnapshotViewer.Binary64.Basic
import SnapshotViewer.Numeral

/-!
# The shortest decimal text of a number

The text of a finite number has the fewest digits that read back as the same number, and of those
the nearest ones. Numbers from `0.0001` up to below `10 ^ 16` are written positionally, all others
with an exponent of at least two digits.
-/

namespace SnapshotViewer.Binary64

/-- A positive fraction of natural numbers. -/
structure Fraction where
  num : Nat
  den : Nat

/-- The order of fractions. -/
def Fraction.le (a b : Fraction) : Bool := a.num * b.den ≤ b.num * a.den

/-- The strict order of fractions. -/
def Fraction.lt (a b : Fraction) : Bool := a.num * b.den < b.num * a.den

/-- The decimals that read back as one number: an interval whose ends belong to it when the mantissa
is even. -/
structure Interval where
  low : Fraction
  high : Fraction
  closed : Bool

/-- A fraction lies in the interval. -/
def Interval.holds (i : Interval) (x : Fraction) : Bool :=
  if i.closed then i.low.le x && x.le i.high else i.low.lt x && x.lt i.high

/-- A quarter of a count of units of `2 ^ exponent`. -/
def quarters (count : Nat) (exponent : Int) : Fraction :=
  let (num, den) := scale count 4 exponent
  ⟨num, den⟩

/-- The interval around `mantissa * 2 ^ exponent`. Below a power of two the numbers are twice as
dense. -/
def interval (mantissa : Nat) (exponent : Int) : Interval :=
  let below := if mantissa = Nat.pow 2 52 ∧ minExponent < exponent then 1 else 2
  { low := quarters (4 * mantissa - below) exponent
    high := quarters (4 * mantissa + 2) exponent
    closed := mantissa % 2 == 0 }

/-- The least `k ≤ bound` with `den ≤ num * 10 ^ k`. -/
def leadingZeros (num den : Nat) : Nat → Nat
  | 0 => 0
  | bound + 1 => if den ≤ num then 0 else leadingZeros (num * 10) den bound + 1

/-- The exponent of the greatest power of ten that is not above a positive fraction. -/
def log10Floor (x : Fraction) : Int :=
  if x.den ≤ x.num then ((Nat.toDigits 10 (x.num / x.den)).length : Int) - 1
  else -(leadingZeros x.num x.den 400 : Int)

/-- `count * 10 ^ exponent` as a fraction. -/
def decimal (count : Nat) (exponent : Int) : Fraction :=
  if 0 ≤ exponent then ⟨count * Nat.pow 10 exponent.toNat, 1⟩
  else ⟨count, Nat.pow 10 (-exponent).toNat⟩

/-- Of the two neighbours of `x` on the grid of multiples of `10 ^ unit`, the one that lies in the
interval; if both do, the nearer one, and the even one on a tie. -/
def gridPoint? (i : Interval) (x : Fraction) (unit : Int) : Option Nat :=
  let (n, d) := if 0 ≤ unit then (x.num, x.den * Nat.pow 10 unit.toNat)
    else (x.num * Nat.pow 10 (-unit).toNat, x.den)
  let below := n / d
  let left := decimal below unit
  let right := decimal (below + 1) unit
  match i.holds left, i.holds right with
  | true, false => some below
  | false, true => some (below + 1)
  | false, false => none
  | true, true =>
    -- both distances over the denominator `d`
    let rest := n % d
    if 2 * rest < d then some below
    else if d < 2 * rest then some (below + 1)
    else some (below + below % 2)

/-- Tries grids from coarse to fine: the exponent of the leading digit is `top`, and `spent` digits
have been tried. -/
def search (i : Interval) (x : Fraction) (top : Int) (spent : Nat) : Nat → Nat × Int
  | 0 => (0, 0)
  | fuel + 1 =>
    let unit := top - spent
    match gridPoint? i x unit with
    | some count => (count, unit)
    | none => search i x top (spent + 1) fuel

/-- The shortest decimal `count * 10 ^ unit` of a positive number. Seventeen digits always
suffice. -/
def shortest (mantissa : Nat) (exponent : Int) : Nat × Int :=
  let (num, den) := scale mantissa 1 exponent
  let x : Fraction := ⟨num, den⟩
  search (interval mantissa exponent) x (log10Floor x) 0 18

/-- Removes zeros at the end. -/
def stripZeros (digits : List Char) : List Char := (digits.reverse.dropWhile (· == '0')).reverse

/-- The exponent with its sign and at least two digits. -/
def exponentText (e : Int) : String :=
  let digits := Nat.toDigits 10 e.natAbs
  let padded := if digits.length < 2 then '0' :: digits else digits
  String.ofList ((if e < 0 then '-' else '+') :: padded)

/-- Writes significant digits whose point stands after the first `point` of them. -/
def layout (digits : List Char) (point : Int) : String :=
  if -4 < point ∧ point ≤ 16 then
    if point ≤ 0 then
      "0." ++ String.ofList (List.replicate (-point).toNat '0' ++ digits)
    else
      let whole := digits.take point.toNat
      let padded := whole ++ List.replicate (point.toNat - whole.length) '0'
      let rest := digits.drop point.toNat
      String.ofList padded ++ "." ++ (if rest.isEmpty then "0" else String.ofList rest)
  else
    match digits with
    | [] => "0.0"
    | [d] => String.ofList [d] ++ "e" ++ exponentText (point - 1)
    | d :: rest => String.ofList [d] ++ "." ++ String.ofList rest ++ "e" ++ exponentText (point - 1)

/-- The text of a number. -/
def write : Binary64 → String
  | .notANumber => "nan"
  | .infinite negative => if negative then "-inf" else "inf"
  | .finite negative mantissa exponent =>
    let sign := if negative then "-" else ""
    if mantissa = 0 then sign ++ "0.0"
    else
      let (count, unit) := shortest mantissa exponent
      let digits := Nat.toDigits 10 count
      sign ++ layout (stripZeros digits) (digits.length + unit)

end SnapshotViewer.Binary64
