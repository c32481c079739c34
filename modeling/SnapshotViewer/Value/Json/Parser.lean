import SnapshotViewer.Value.Basic

/-!
# Reading JSON text

The grammar is the strict one, with `NaN`, `Infinity` and `-Infinity` as further numbers. A number
with a fraction or an exponent is a real, any other an integer of any size. Where an object repeats
a key, the last value counts.
-/

namespace SnapshotViewer.Json

/-- A character between tokens. -/
def isSpace (c : Char) : Bool := c == ' ' || c == '\t' || c == '\n' || c == '\r'

/-- Skips what may stand between tokens. -/
def skipSpace (s : List Char) : List Char := s.dropWhile isSpace

/-- The value of a hexadecimal digit. -/
def hexValue? (c : Char) : Option Nat :=
  if '0' ≤ c ∧ c ≤ '9' then some (c.toNat - 48)
  else if 'a' ≤ c ∧ c ≤ 'f' then some (c.toNat - 87)
  else if 'A' ≤ c ∧ c ≤ 'F' then some (c.toNat - 55)
  else none

/-- The value of four hexadecimal digits. -/
def hexValue4? (a b c d : Char) : Option Nat := do
  return ((← hexValue? a) * 16 + (← hexValue? b)) * 256 + (← hexValue? c) * 16 + (← hexValue? d)

/-- The first half of a pair that stands for one character beyond the basic plane. -/
def isHighHalf (n : Nat) : Bool := 0xd800 ≤ n && n < 0xdc00

/-- The second half of such a pair. -/
def isLowHalf (n : Nat) : Bool := 0xdc00 ≤ n && n < 0xe000

/-- The character of a unit of sixteen bits. A half without its partner is no character and becomes
the replacement character. -/
def unitChar (n : Nat) : Char :=
  if isHighHalf n || isLowHalf n then '\ufffd' else Char.ofNat n

/-- The character of an escape of one letter. -/
def escapeChar? (c : Char) : Option Char :=
  match c with
  | '"' => some '"'
  | '\\' => some '\\'
  | '/' => some '/'
  | 'b' => some '\x08'
  | 'f' => some '\x0c'
  | 'n' => some '\n'
  | 'r' => some '\r'
  | 't' => some '\t'
  | _ => none

/-- Reads a string after its opening mark, with the characters so far in reverse order. The second
argument is the first half of a pair that waits for its second half. -/
def readString (acc : List Char) (half : Option Nat) : List Char → Option (String × List Char)
  | [] => none
  | '\\' :: 'u' :: a :: b :: c :: d :: rest =>
    match hexValue4? a b c d, half with
    | none, _ => none
    | some n, some h =>
      if isLowHalf n then
        readString (Char.ofNat (0x10000 + (h - 0xd800) * 0x400 + (n - 0xdc00)) :: acc) none rest
      else if isHighHalf n then readString (unitChar h :: acc) (some n) rest
      else readString (unitChar n :: unitChar h :: acc) none rest
    | some n, none =>
      if isHighHalf n then readString acc (some n) rest
      else readString (unitChar n :: acc) none rest
  | c :: rest =>
    let acc := match half with
      | some h => unitChar h :: acc
      | none => acc
    if c = '"' then some (String.ofList acc.reverse, rest)
    else if c.toNat < 0x20 then none
    else if c = '\\' then
      match rest with
      | [] => none
      | e :: rest => do readString ((← escapeChar? e) :: acc) none rest
    else readString (c :: acc) none rest

/-- Splits off the digits at the front. -/
def spanDigits (s : List Char) : List Char × List Char := s.span fun c => '0' ≤ c && c ≤ '9'

/-- The natural number of a list of digits. -/
def natOf (digits : List Char) : Nat := digits.foldl (fun n c => n * 10 + (c.toNat - 48)) 0

/-- Reads the fraction of a number: its digits, if there is one. -/
def readFraction (s : List Char) : Option (List Char) × List Char :=
  match s with
  | '.' :: rest =>
    match spanDigits rest with
    | ([], _) => (none, s)
    | (digits, rest) => (some digits, rest)
  | _ => (none, s)

/-- Reads the exponent of a number, if there is one. -/
def readExponent (s : List Char) : Option Int × List Char :=
  let signed (negative : Bool) (rest : List Char) : Option Int × List Char :=
    match spanDigits rest with
    | ([], _) => (none, s)
    | (digits, rest) => (some (if negative then -(natOf digits : Int) else natOf digits), rest)
  match s with
  | e :: '-' :: rest => if e = 'e' ∨ e = 'E' then signed true rest else (none, s)
  | e :: '+' :: rest => if e = 'e' ∨ e = 'E' then signed false rest else (none, s)
  | e :: rest => if e = 'e' ∨ e = 'E' then signed false rest else (none, s)
  | [] => (none, s)

/-- Reads a number after its sign. -/
def readNumber (negative : Bool) (s : List Char) : Option (Value × List Char) :=
  let whole := match s with
    | '0' :: rest => some (['0'], rest)
    | _ =>
      match spanDigits s with
      | ([], _) => none
      | r => some r
  match whole with
  | none => none
  | some (whole, rest) =>
    let (fraction, rest) := readFraction rest
    let (exponent, rest) := readExponent rest
    match fraction, exponent with
    | none, none =>
      some (.int (if negative then -(natOf whole : Int) else natOf whole), rest)
    | _, _ =>
      let fraction := fraction.getD []
      let shift := exponent.getD 0 - fraction.length
      some (.scalar (.real (.ofDecimal negative (natOf (whole ++ fraction)) shift)), rest)

/-- Removes an expected word. -/
def word? (w s : List Char) : Option (List Char) :=
  if w.isPrefixOf s then some (s.drop w.length) else none

/-- The words that stand for values. -/
def words : List (List Char × Value) :=
  [("null".toList, .null), ("true".toList, .bool true), ("false".toList, .bool false),
    ("NaN".toList, .scalar (.real .notANumber)),
    ("Infinity".toList, .scalar (.real (.infinite false))),
    ("-Infinity".toList, .scalar (.real (.infinite true)))]

/-- Reads a value that is one word or a number. -/
def readAtom (s : List Char) : Option (Value × List Char) :=
  match words.findSome? fun (w, v) => (word? w s).map fun rest => (v, rest) with
  | some r => some r
  | none =>
    match s with
    | '-' :: rest => readNumber true rest
    | _ => readNumber false s

mutual

/-- Reads a value. The first argument bounds the depth of nesting plus the number of parts: a
bracket takes two, a part one. -/
def readValue : Nat → List Char → Option (Value × List Char)
  | 0, _ => none
  | fuel + 1, s =>
    match s with
    | '"' :: rest => do
      let (t, rest) ← readString [] none rest
      return (.text t, rest)
    | '[' :: rest =>
      match skipSpace rest with
      | ']' :: rest => some (.list [], rest)
      | rest => do
        let (items, rest) ← readItems fuel rest
        return (.list items, rest)
    | '\x7b' :: rest =>
      match skipSpace rest with
      | '\x7d' :: rest => some (.map [], rest)
      | rest => do
        let (fields, rest) ← readFields fuel rest
        return (.ofEntries fields, rest)
    | _ => readAtom s

/-- Reads the items of an array up to its end. -/
def readItems : Nat → List Char → Option (List Value × List Char)
  | 0, _ => none
  | fuel + 1, s => do
    let (v, rest) ← readValue fuel s
    match skipSpace rest with
    | ',' :: rest =>
      let (items, rest) ← readItems fuel (skipSpace rest)
      return (v :: items, rest)
    | ']' :: rest => return ([v], rest)
    | _ => none

/-- Reads the fields of an object up to its end. -/
def readFields : Nat → List Char → Option (List (Scalar × Value) × List Char)
  | 0, _ => none
  | fuel + 1, s =>
    match s with
    | '"' :: rest => do
      let (name, rest) ← readString [] none rest
      match skipSpace rest with
      | ':' :: rest =>
        let (v, rest) ← readValue fuel (skipSpace rest)
        match skipSpace rest with
        | ',' :: rest =>
          let (fields, rest) ← readFields fuel (skipSpace rest)
          return ((.text name, v) :: fields, rest)
        | '\x7d' :: rest => return ([(.text name, v)], rest)
        | _ => none
      | _ => none
    | _ => none

end

/-- Reads a whole text as one value. -/
def read (s : String) : Option Value :=
  let chars := s.toList
  match readValue (2 * chars.length + 2) (skipSpace chars) with
  | some (v, rest) => if (skipSpace rest).isEmpty then some v else none
  | none => none

/-! ## Keys of what is read -/

theorem keysDiffer_readNumber {negative : Bool} {s rest : List Char} {v : Value}
    (h : readNumber negative s = some (v, rest)) : v.KeysDiffer := by
  unfold readNumber at h
  dsimp only at h
  split at h
  · cases h
  · split at h
    · cases h
      exact Value.keysDiffer_scalar _
    · cases h
      exact Value.keysDiffer_scalar _

theorem keysDiffer_readAtom {s rest : List Char} {v : Value} (h : readAtom s = some (v, rest)) :
    v.KeysDiffer := by
  unfold readAtom at h
  split at h
  · rename_i r hr
    cases h
    obtain ⟨⟨word, x⟩, hword, hx⟩ := List.exists_of_findSome?_eq_some hr
    obtain ⟨_, -, heq⟩ := Option.map_eq_some_iff.1 hx
    cases heq
    have hscalar : ∀ w ∈ words, ∃ s, w.2 = .scalar s := by simp [words]
    obtain ⟨s, rfl⟩ := hscalar _ hword
    exact Value.keysDiffer_scalar s
  · split at h
    · exact keysDiffer_readNumber h
    · exact keysDiffer_readNumber h

theorem keysDiffer_readValue {fuel : Nat} {s rest : List Char} {v : Value}
    (h : readValue fuel s = some (v, rest)) : v.KeysDiffer := by
  cases fuel with
  | zero => cases h
  | succ fuel =>
    unfold readValue at h
    split at h
    · obtain ⟨⟨t, rest'⟩, -, ht⟩ := Option.bind_eq_some_iff.1 h
      cases ht
      exact Value.keysDiffer_scalar _
    · split at h
      · cases h
        exact Value.keysDiffer_list _
      · obtain ⟨⟨items, rest'⟩, -, hitems⟩ := Option.bind_eq_some_iff.1 h
        cases hitems
        exact Value.keysDiffer_list _
    · split at h
      · cases h
        exact Value.keysDiffer_nil
      · obtain ⟨⟨fields, rest'⟩, -, hfields⟩ := Option.bind_eq_some_iff.1 h
        cases hfields
        exact Value.keysDiffer_ofEntries _
    · exact keysDiffer_readAtom h

theorem keysDiffer_read {s : String} {v : Value} (h : read s = some v) : v.KeysDiffer := by
  unfold read at h
  dsimp only at h
  split at h
  · rename_i x rest hread
    split at h
    · cases h
      exact keysDiffer_readValue hread
    · cases h
  · cases h

end SnapshotViewer.Json
