import SnapshotViewer.Value.Basic

/-!
# What plain scalars stand for

A plain scalar may be a missing value, a truth value, an integer in base two, eight, ten or sixteen,
a number in parts of sixty, or a real. All else is text. There is no kind for points in time, so that
a date is a text.
-/

namespace SnapshotViewer.Yaml

/-- The spellings of the missing value. -/
def nullWords : List String := ["", "~", "null", "Null", "NULL"]

/-- The spellings of true. -/
def trueWords : List String :=
  ["yes", "Yes", "YES", "true", "True", "TRUE", "on", "On", "ON"]

/-- The spellings of false. -/
def falseWords : List String :=
  ["no", "No", "NO", "false", "False", "FALSE", "off", "Off", "OFF"]

/-- A decimal digit. -/
def isDecimal (c : Char) : Bool := '0' ≤ c && c ≤ '9'

/-- A decimal digit or a low line between digits. -/
def isDecimalOrLine (c : Char) : Bool := isDecimal c || c == '_'

/-- The value of a digit of a base up to sixteen. -/
def digitIn? (base : Nat) (c : Char) : Option Nat :=
  let n :=
    if isDecimal c then c.toNat - 48
    else if 'a' ≤ c ∧ c ≤ 'f' then c.toNat - 87
    else if 'A' ≤ c ∧ c ≤ 'F' then c.toNat - 55
    else base
  if n < base then some n else none

/-- The value of digits of a base, where low lines are skipped and at least one digit has to be
there. -/
def natIn? (base : Nat) (s : List Char) : Option Nat :=
  let digits := s.filter (· != '_')
  if digits.isEmpty then none
  else digits.foldlM (fun n c => (digitIn? base c).map (n * base + ·)) 0

/-- A sign at the front, and the rest. -/
def splitSign : List Char → Bool × List Char
  | '-' :: rest => (true, rest)
  | '+' :: rest => (false, rest)
  | rest => (false, rest)

/-- Splits at the colons. -/
def splitColons : List Char → List (List Char)
  | [] => [[]]
  | c :: rest =>
    match splitColons rest with
    | [] => [[c]]
    | part :: parts => if c = ':' then [] :: part :: parts else (c :: part) :: parts

/-- A part after a colon: one digit, or two of which the first is below six. -/
def isSixtieth (s : List Char) : Bool :=
  match s with
  | [a] => isDecimal a
  | [a, b] => '0' ≤ a && a ≤ '5' && isDecimal b
  | _ => false

/-- The value of numerals in parts of sixty. -/
def sixtieths? (parts : List (List Char)) : Option Nat :=
  parts.foldlM (fun n part => (natIn? 10 part).map (n * 60 + ·)) 0

/-- An integer without its sign. -/
def natural? (s : List Char) : Option Nat :=
  match s with
  | ['0'] => some 0
  | '0' :: 'b' :: digits => natIn? 2 digits
  | '0' :: 'x' :: digits => natIn? 16 digits
  | '0' :: digits => if digits.all (· == '_') then some 0 else natIn? 8 digits
  | c :: _ =>
    if !isDecimal c then none
    else
      match splitColons s with
      | [whole] => natIn? 10 whole
      | whole :: parts =>
        if whole.all isDecimalOrLine && parts.all isSixtieth then sixtieths? (whole :: parts)
        else none
      | [] => none
  | [] => none

/-- A signed integer. -/
def integer? (s : List Char) : Option Int :=
  let (negative, rest) := splitSign s
  (natural? rest).map fun n => if negative then -(n : Int) else n

/-- The exponent of a real: a mark, a sign and digits. -/
def exponent? (s : List Char) : Option Int :=
  match s with
  | [] => some 0
  | e :: sign :: digits =>
    if (e = 'e' ∨ e = 'E') ∧ (sign = '+' ∨ sign = '-') ∧ digits.all isDecimal then
      (natIn? 10 digits).map fun n => if sign = '-' then -(n : Int) else n
    else none
  | _ => none

/-- A real from the digits before and after its point. -/
def realOf (negative : Bool) (whole fraction : List Char) (exponent : Int) : Binary64 :=
  let fraction := fraction.filter (· != '_')
  let digits := (natIn? 10 (whole ++ fraction)).getD 0
  .ofDecimal negative digits (exponent - fraction.length)

/-- A real without its sign. The sign is refused in front of a real that begins with its point. -/
def realBody? (signed negative : Bool) (s : List Char) : Option Binary64 :=
  let (whole, rest) := s.span isDecimalOrLine
  match whole, rest with
  | [], '.' :: rest =>
    let (fraction, rest) := rest.span isDecimalOrLine
    match fraction with
    | c :: _ =>
      if signed || !isDecimal c then none
      else (exponent? rest).map (realOf negative [] fraction)
    | [] => none
  | c :: _, '.' :: rest =>
    let (fraction, rest) := rest.span isDecimalOrLine
    if isDecimal c then (exponent? rest).map (realOf negative whole fraction) else none
  | c :: _, ':' :: _ =>
    -- parts of sixty, of which the last has a fraction
    let (body, rest) := s.span (· != '.')
    match rest, splitColons body with
    | '.' :: fraction, first :: parts =>
      if isDecimal c && first.all isDecimalOrLine && parts.all isSixtieth
          && fraction.all isDecimalOrLine then
        (sixtieths? (first :: parts)).map fun n =>
          realOf negative (Nat.toDigits 10 n) fraction 0
      else none
    | _, _ => none
  | _, _ => none

/-- A real. -/
def real? (s : List Char) : Option Binary64 :=
  let (negative, rest) := splitSign s
  let signed := rest.length != s.length
  if [".inf".toList, ".Inf".toList, ".INF".toList].contains rest then some (.infinite negative)
  else if [".nan".toList, ".NaN".toList, ".NAN".toList].contains s then some .notANumber
  else realBody? signed negative rest

/-- What a plain scalar stands for. The words for a merge and for a default value stand for
nothing, and dates and times for their text. -/
def plainScalar? (s : String) : Option Scalar :=
  let chars := s.toList
  if s == "<<" || s == "=" then none
  else if nullWords.contains s then some .null
  else if trueWords.contains s then some (.bool true)
  else if falseWords.contains s then some (.bool false)
  else
    match real? chars, integer? chars with
    | some x, _ => some (.real x)
    | none, some n => some (.int n)
    | none, none => some (.text s)

end SnapshotViewer.Yaml
