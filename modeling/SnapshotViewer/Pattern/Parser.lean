import SnapshotViewer.Pattern.Basic

/-!
# Reading patterns

A pattern is alternatives of sequences of items. An item is a character, a set in square brackets, a
group or an anchor, and may be repeated once: by a star, a plus, a question mark or bounds in curly
brackets, with a further question mark that changes the order of the search and not what is matched.

A pattern that refers back to a group, looks ahead or behind, has a condition, keeps what a repetition
has taken, sets other flags than a leading `(?i)`, or has an escape for a place, an octal number or
the name of a character, is refused like one that is broken.
-/

namespace SnapshotViewer.Pattern

/-- An item that a sequence has so far, with what decides whether it may be repeated. -/
inductive Item where
  | plain (n : Node)
  | anchor (n : Node)
  | repetition (n : Node)

/-- The pattern of an item. -/
def Item.node : Item → Node
  | .plain n => n
  | .anchor n => n
  | .repetition n => n

/-- The items of a sequence, the last one first, as one pattern. -/
def joined (items : List Item) : Node := items.foldl (fun rest i => .seq i.node rest) .empty

/-- The least bound that is too large to be counted to. -/
def countLimit : Nat := 4294967295

/-- The value of a hexadecimal digit. -/
def hexDigit? (c : Char) : Option Nat :=
  if '0' ≤ c ∧ c ≤ '9' then some (c.toNat - 48)
  else if 'a' ≤ c ∧ c ≤ 'f' then some (c.toNat - 87)
  else if 'A' ≤ c ∧ c ≤ 'F' then some (c.toNat - 55)
  else none

/-- The value of a given number of hexadecimal digits and the rest. -/
def hexDigits? (value : Nat) : Nat → List Char → Option (Nat × List Char)
  | 0, s => some (value, s)
  | _ + 1, [] => none
  | n + 1, c :: rest => do hexDigits? (value * 16 + (← hexDigit? c)) n rest

/-- The control character of an escape. -/
def control? (c : Char) : Option Char :=
  match c with
  | 'a' => some '\x07'
  | 'f' => some '\x0c'
  | 'n' => some '\n'
  | 'r' => some '\r'
  | 't' => some '\t'
  | 'v' => some '\x0b'
  | '\\' => some '\\'
  | _ => none

/-- The class of an escape. -/
def classOf? (c : Char) : Option SetItem :=
  match c with
  | 'd' => some (.inClass .digit)
  | 'D' => some (.notInClass .digit)
  | 's' => some (.inClass .blank)
  | 'S' => some (.notInClass .blank)
  | 'w' => some (.inClass .word)
  | 'W' => some (.notInClass .word)
  | _ => none

/-- The character of a code point, if it is one. -/
def charOf? (n : Nat) : Option Char := if n.isValidChar then some (Char.ofNat n) else none

/-- Reads an escape after its backslash. Letters and digits without a meaning of their own are
errors, all other characters stand for themselves. -/
def readEscape (s : List Char) : Option (SetItem × List Char) :=
  match s with
  | [] => none
  | c :: rest =>
    let one (c : Char) (rest : List Char) : Option (SetItem × List Char) := some (.range c c, rest)
    match control? c, classOf? c with
    | some k, _ => one k rest
    | none, some k => some (k, rest)
    | none, none =>
      let coded (width : Nat) : Option (SetItem × List Char) := do
        let (n, rest) ← hexDigits? 0 width rest
        one (← charOf? n) rest
      if c = 'x' then coded 2
      else if c = 'u' then coded 4
      else if c = 'U' then coded 8
      else if c.isAlphanum then none
      else one c rest

/-- The character of an entry that covers exactly one. -/
def SetItem.single? : SetItem → Option Char
  | .range a b => if a = b then some a else none
  | _ => none

/-- Reads one character or escape inside a set. -/
def readSetItem (s : List Char) : Option (SetItem × List Char) :=
  match s with
  | [] => none
  | '\\' :: rest => readEscape rest
  | c :: rest => some (.range c c, rest)

/-- Reads a set up to its closing bracket, with the entries so far. A bracket closes it only after
the first entry. -/
def readSet (items : List SetItem) : Nat → List Char → Option (List SetItem × List Char)
  | 0, _ => none
  | fuel + 1, s =>
    match s, items.isEmpty with
    | ']' :: rest, false => some (items, rest)
    | s, _ => do
      let (item, rest) ← readSetItem s
      match rest with
      | '-' :: ']' :: rest => some (items ++ [item, .range '-' '-'], rest)
      | '-' :: rest =>
        let (last, rest) ← readSetItem rest
        let a ← item.single?
        let b ← last.single?
        if b < a then none else readSet (items ++ [.range a b]) fuel rest
      | rest => readSet (items ++ [item]) fuel rest

/-- Bounds of a repetition after the opening bracket: the least and the greatest count. Nothing is
read where no bounds stand. -/
def readBounds (s : List Char) : Option (Option Nat × Option Nat × List Char) :=
  let digits (s : List Char) := s.span fun c => '0' ≤ c && c ≤ '9'
  let number (ds : List Char) : Option Nat :=
    if ds.isEmpty then none else some (ds.foldl (fun n c => n * 10 + (c.toNat - 48)) 0)
  let (low, rest) := digits s
  match rest with
  | '\x7d' :: rest => if low.isEmpty then none else some (number low, number low, rest)
  | ',' :: rest =>
    let (high, rest) := digits rest
    match rest with
    | '\x7d' :: rest => some (number low, number high, rest)
    | _ => none
  | _ => none

/-- A mark of repetition at the front: the bounds and the rest. The outer option says whether a mark
stands there, the inner one whether its bounds are possible. -/
def readRepetition (s : List Char) : Option (Option (Nat × Option Nat) × List Char) :=
  match s with
  | '*' :: rest => some (some (0, none), rest)
  | '+' :: rest => some (some (1, none), rest)
  | '?' :: rest => some (some (0, some 1), rest)
  | '\x7b' :: rest =>
    match readBounds rest with
    | none => none
    | some (low, high, rest) =>
      let least := low.getD 0
      let possible := least < countLimit &&
        (match high with
        | some high => high < countLimit && least ≤ high
        | none => true)
      some (if possible then some (least, high) else none, rest)
  | _ => none

/-- Repeats the last item of a sequence. An anchor, a repetition or nothing cannot be repeated. -/
def repeatLast (bounds : Nat × Option Nat) : List Item → Option (List Item)
  | .plain n :: items => some (.repetition (.repeated bounds.1 bounds.2 n) :: items)
  | _ => none

/-- A name of a group: a letter or low line, then letters, digits and low lines. -/
def isGroupName (name : List Char) : Bool :=
  match name with
  | [] => false
  | c :: rest => Text.isWord c && !Text.isDigit c && rest.all Text.isWord

/-- Reads what follows the opening bracket of a group: the names of groups so far with the new
one. -/
def readGroupHead (names : List (List Char)) (s : List Char) :
    Option (List (List Char) × List Char) :=
  match s with
  | '?' :: ':' :: rest => some (names, rest)
  | '?' :: 'P' :: '<' :: rest =>
    let (name, rest) := rest.span (· != '>')
    match rest with
    | '>' :: rest =>
      if isGroupName name && !names.contains name then some (name :: names, rest) else none
    | _ => none
  | '?' :: _ => none
  | rest => some (names, rest)

mutual

/-- Reads alternatives up to a closing bracket or the end. -/
def readAlternatives (names : List (List Char)) :
    Nat → List Char → Option (Node × List (List Char) × List Char)
  | 0, _ => none
  | fuel + 1, s => do
    let (first, names, rest) ← readSequence names [] fuel s
    match rest with
    | '|' :: rest =>
      let (second, names, rest) ← readAlternatives names fuel rest
      return (.alt first second, names, rest)
    | rest => return (first, names, rest)

/-- Reads a sequence of items up to a bar, a closing bracket or the end, with the items so far. -/
def readSequence (names : List (List Char)) (items : List Item) :
    Nat → List Char → Option (Node × List (List Char) × List Char)
  | 0, _ => none
  | fuel + 1, s =>
    match readRepetition s with
    | some (none, _) => none
    | some (some bounds, rest) => do
      let items ← repeatLast bounds items
      match rest with
      | '?' :: rest => readSequence names items fuel rest
      | rest => readSequence names items fuel rest
    | none =>
      match s with
      | [] => some (joined items, names, [])
      | c :: rest =>
        if c = '|' ∨ c = ')' then some (joined items, names, s)
        else if c = '\\' then do
          let (item, rest) ← readEscape rest
          readSequence names (.plain (.atom (.oneOf [item])) :: items) fuel rest
        else if c = '[' then
          match rest with
          | '^' :: rest => do
            let (set, rest) ← readSet [] fuel rest
            readSequence names (.plain (.atom (.noneOf set)) :: items) fuel rest
          | rest => do
            let (set, rest) ← readSet [] fuel rest
            readSequence names (.plain (.atom (.oneOf set)) :: items) fuel rest
        else if c = '.' then readSequence names (.plain (.atom .anyInLine) :: items) fuel rest
        else if c = '^' then readSequence names (.anchor .atStart :: items) fuel rest
        else if c = '$' then readSequence names (.anchor .atEnd :: items) fuel rest
        else if c = '(' then do
          let (names, rest) ← readGroupHead names rest
          let (body, names, rest) ← readAlternatives names fuel rest
          match rest with
          | ')' :: rest => readSequence names (.plain body :: items) fuel rest
          | _ => none
        else readSequence names (.plain (.atom (.exactly c)) :: items) fuel rest

end

/-- Reads a pattern. A leading `(?i)` makes capitals and small letters the same. What is not read is
listed at the head of this module. -/
def ofText? (s : String) : Option Pattern :=
  let (foldCase, body) := match s.toList with
    | '(' :: '?' :: 'i' :: ')' :: rest => (true, rest)
    | chars => (false, chars)
  match readAlternatives [] (2 * body.length + 2) body with
  | some (node, _, []) => some ⟨foldCase, node⟩
  | _ => none

end SnapshotViewer.Pattern
