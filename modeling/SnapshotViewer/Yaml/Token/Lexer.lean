import SnapshotViewer.Yaml.Token

/-!
# Reading tokens

The lexer keeps the column of the current block and the places where a key may have begun: a text is
known to be a key only when its colon comes. A key has to stand on one line.

Scalars are plain or stand between marks. Scalars that are written as blocks of lines, behind a bar
or an angle bracket, are not part of what is read here: the text breaks off in front of one.
-/

namespace SnapshotViewer.Yaml

/-- A place in the text. -/
structure Cursor where
  rest : List Char
  index : Nat := 0
  line : Nat := 0
  column : Nat := 0

namespace Cursor

/-- The end of the text is shown as the null character. -/
def endMark : Char := '\x00'

/-- The character at a distance from the cursor. -/
def peek (c : Cursor) (n : Nat) : Char := c.rest.getD n endMark

/-- A character that ends a line. -/
def isBreak (c : Char) : Bool :=
  c == '\n' || c == '\r' || c == '\x85' || c == '\u2028' || c == '\u2029'

/-- A character that ends a word: a blank, the end of a line or of the text. -/
def isGap (c : Char) : Bool := c == ' ' || c == '\t' || c == endMark || isBreak c

/-- Moves over one character. -/
def next (c : Cursor) : Cursor :=
  match c.rest with
  | [] => c
  | ch :: rest =>
    if isBreak ch then { rest, index := c.index + 1, line := c.line + 1, column := 0 }
    else { rest, index := c.index + 1, line := c.line,
           column := if ch == '\ufeff' then c.column else c.column + 1 }

/-- Moves over a number of characters. -/
def skip (c : Cursor) : Nat → Cursor
  | 0 => c
  | n + 1 => c.next.skip n

/-- The number of characters at the cursor that satisfy a test. -/
def count (c : Cursor) (test : Char → Bool) : Nat := (c.rest.takeWhile test).length

/-- The text of the next characters. -/
def word (c : Cursor) (n : Nat) : List Char := c.rest.take n

/-- A line end at the cursor, as the character that stands for it: those that only begin a new line
become the line feed. -/
def lineBreak? (c : Cursor) : Option Char :=
  let ch := c.peek 0
  if !isBreak ch then none
  else if ch == '\u2028' || ch == '\u2029' then some ch
  else some '\n'

/-- A mark between documents at the cursor: three hyphens or dots, then a gap. -/
def atDocumentMark (c : Cursor) : Bool :=
  (c.word 3 == ['-', '-', '-'] || c.word 3 == ['.', '.', '.']) && isGap (c.peek 3)

end Cursor

open Cursor

/-! ## Scalars -/

/-- The length of the next word of a plain scalar. -/
def plainLength (inFlow : Bool) : List Char → Nat
  | [] => 0
  | c :: rest =>
    let after := rest.headD endMark
    if isGap c || (c == ':' && (isGap after || (inFlow && ",[]\x7b\x7d".contains after)))
        || (inFlow && ",?[]\x7b\x7d".contains c) then 0
    else plainLength inFlow rest + 1

/-- Empty lines in front of the next word of a plain scalar: the line ends, and whether a mark
between documents stopped them. -/
def plainBreaks : Nat → Cursor → List Char → Option (List Char) × Cursor
  | 0, c, found => (some found, c)
  | fuel + 1, c, found =>
    if c.peek 0 == ' ' then plainBreaks fuel c.next found
    else
      match c.lineBreak? with
      | none => (some found, c)
      | some b =>
        let c := c.next
        if c.atDocumentMark then (none, c) else plainBreaks fuel c (found ++ [b])

/-- The white space behind a word of a plain scalar: what it stands for if the scalar goes on,
whether a line ended, and the cursor behind it. A line end becomes a space, and each empty line a
line feed. -/
def plainSpaces (c : Cursor) : Option (List Char) × Bool × Cursor :=
  let blanks := c.rest.takeWhile (· == ' ')
  let c := c.skip blanks.length
  match c.lineBreak? with
  | none => (if blanks.isEmpty then none else some blanks, false, c)
  | some b =>
    let c := c.next
    if c.atDocumentMark then (none, true, c)
    else
      match plainBreaks (c.rest.length + 1) c [] with
      | (none, c) => (none, true, c)
      | (some breaks, c) =>
        let first := if b != '\n' then [b] else if breaks.isEmpty then [' '] else []
        (some (first ++ breaks), true, c)

/-- A plain scalar: its text, whether a line ended behind one of its words, and the cursor. `spaces`
is what stands for the white space in front of the next word. -/
def plainScalar (inFlow : Bool) (indent : Int) :
    Nat → Cursor → List Char → List Char → Bool → List Char × Bool × Cursor
  | 0, c, text, _, ended => (text, ended, c)
  | fuel + 1, c, text, spaces, ended =>
    let length := if c.peek 0 == '#' then 0 else plainLength inFlow c.rest
    if length = 0 then (text, ended, c)
    else
      let text := text ++ spaces ++ c.word length
      let (spaces, lineEnded, c) := plainSpaces (c.skip length)
      match spaces with
      | none => (text, lineEnded, c)
      | some spaces =>
        if c.peek 0 == '#' || (!inFlow && c.column < indent) then (text, lineEnded, c)
        else plainScalar inFlow indent fuel c text spaces lineEnded

/-- The character of an escape of one letter in double marks. -/
def escapeChar? (c : Char) : Option Char :=
  match c with
  | '0' => some '\x00'
  | 'a' => some '\x07'
  | 'b' => some '\x08'
  | 't' => some '\t'
  | '\t' => some '\t'
  | 'n' => some '\n'
  | 'v' => some '\x0b'
  | 'f' => some '\x0c'
  | 'r' => some '\r'
  | 'e' => some '\x1b'
  | ' ' => some ' '
  | '"' => some '"'
  | '\\' => some '\\'
  | '/' => some '/'
  | 'N' => some '\x85'
  | '_' => some '\xa0'
  | 'L' => some '\u2028'
  | 'P' => some '\u2029'
  | _ => none

/-- The width of a coded escape. -/
def escapeWidth? (c : Char) : Option Nat :=
  match c with
  | 'x' => some 2
  | 'u' => some 4
  | 'U' => some 8
  | _ => none

/-- The value of a hexadecimal digit. -/
def hexDigit? (c : Char) : Option Nat :=
  if '0' ≤ c ∧ c ≤ '9' then some (c.toNat - 48)
  else if 'a' ≤ c ∧ c ≤ 'f' then some (c.toNat - 87)
  else if 'A' ≤ c ∧ c ≤ 'F' then some (c.toNat - 55)
  else none

/-- The value of hexadecimal digits. -/
def hexValue? (digits : List Char) : Option Nat :=
  digits.foldlM (fun n c => (hexDigit? c).map (n * 16 + ·)) 0

/-- Empty lines inside a quoted scalar: the line ends. Nothing is returned at a mark between
documents. -/
def quotedBreaks : Nat → Cursor → List Char → Option (List Char × Cursor)
  | 0, c, found => some (found, c)
  | fuel + 1, c, found =>
    if c.atDocumentMark then none
    else
      let c := c.skip (c.count fun ch => ch == ' ' || ch == '\t')
      match c.lineBreak? with
      | none => some (found, c)
      | some b => quotedBreaks fuel c.next (found ++ [b])

/-- A quoted scalar behind its opening mark. -/
def quotedScalar (double : Bool) : Nat → Cursor → List Char → Option (List Char × Cursor)
  | 0, _, _ => none
  | fuel + 1, c, text =>
    let ch := c.peek 0
    if c.rest.isEmpty then none
    else if !double && ch == '\'' then
      if c.peek 1 == '\'' then quotedScalar double fuel (c.skip 2) (text ++ ['\''])
      else some (text, c.next)
    else if double && ch == '"' then some (text, c.next)
    else if double && ch == '\\' then
      let c := c.next
      let e := c.peek 0
      match (if c.rest.isEmpty then none else escapeChar? e), escapeWidth? e with
      | some r, _ => quotedScalar double fuel c.next (text ++ [r])
      | none, some width =>
        let c := c.next
        let digits := c.word width
        if digits.length < width then none
        else
          match hexValue? digits with
          | none => none
          | some n => quotedScalar double fuel (c.skip width) (text ++ [Char.ofNat n])
      | none, none =>
        if isBreak e then
          match quotedBreaks (c.rest.length + 1) c.next [] with
          | none => none
          | some (breaks, c) => quotedScalar double fuel c (text ++ breaks)
        else none
    else if ch == ' ' || ch == '\t' || isBreak ch then
      let blanks := c.rest.takeWhile fun ch => ch == ' ' || ch == '\t'
      let c := c.skip blanks.length
      match c.lineBreak? with
      | none => if c.rest.isEmpty then none else quotedScalar double fuel c (text ++ blanks)
      | some b =>
        match quotedBreaks (c.rest.length + 1) c.next [] with
        | none => none
        | some (breaks, c) =>
          let first := if b != '\n' then [b] else if breaks.isEmpty then [' '] else []
          quotedScalar double fuel c (text ++ first ++ breaks)
    else quotedScalar double fuel c.next (text ++ [ch])

/-! ## The lexer -/

/-- A place where a key may have begun: the number of its token and its position. A required key is
one at the column of the current block. -/
structure PossibleKey where
  token : Nat
  required : Bool
  index : Nat
  line : Nat
  column : Nat

/-- The state of the lexer. -/
structure Lexer where
  cursor : Cursor
  flow : Int := 0
  indent : Int := -1
  outer : List Int := []
  keyAllowed : Bool := true
  keys : List (Int × PossibleKey) := []
  tokens : List Token := []

namespace Lexer

/-- The text stands inside brackets. -/
def inFlow (l : Lexer) : Bool := l.flow != 0

/-- Appends a token. -/
def push (l : Lexer) (t : Token) : Lexer := { l with tokens := l.tokens ++ [t] }

/-- Moves the cursor. -/
def moveTo (l : Lexer) (c : Cursor) : Lexer := { l with cursor := c }

/-- The key that may have begun at the current level. -/
def key? (l : Lexer) : Option PossibleKey := (l.keys.find? (·.1 == l.flow)).map Prod.snd

/-- Forgets the key of the current level. -/
def dropKey (l : Lexer) : Lexer := { l with keys := l.keys.filter (·.1 != l.flow) }

/-- A key is out of date on another line and after 1024 characters. -/
def isStale (l : Lexer) (k : PossibleKey) : Bool :=
  k.line != l.cursor.line || 1024 < l.cursor.index - k.index

/-- Forgets the keys that are out of date. A required one makes the text invalid. -/
def dropStale (l : Lexer) : Option Lexer :=
  if l.keys.any fun (_, k) => l.isStale k && k.required then none
  else some { l with keys := l.keys.filter fun (_, k) => !l.isStale k }

/-- Gives up the key of the current level. A required one makes the text invalid. -/
def giveUpKey (l : Lexer) : Option Lexer :=
  match l.key? with
  | some k => if k.required then none else some l.dropKey
  | none => some l

/-- Notes that a key may begin here. -/
def noteKey (l : Lexer) : Option Lexer :=
  if l.keyAllowed then do
    let required := !l.inFlow && l.indent == l.cursor.column
    let l ← l.giveUpKey
    let k : PossibleKey :=
      { token := l.tokens.length, required, index := l.cursor.index, line := l.cursor.line,
        column := l.cursor.column }
    return { l with keys := (l.flow, k) :: l.keys }
  else some l

/-- Opens a block at a column that is further in. -/
def openBlock? (l : Lexer) (column : Int) : Option Lexer :=
  if l.indent < column then some { l with outer := l.indent :: l.outer, indent := column } else none

/-- Closes the blocks that are further in than a column. -/
def closeBlocks (l : Lexer) (column : Int) : Lexer :=
  if l.inFlow then l else go l.outer l
where
  /-- Closes blocks one after the other. -/
  go : List Int → Lexer → Lexer
    | [], l => l
    | i :: outer, l =>
      if column < l.indent then go outer { l.push .blockEnd with indent := i, outer } else l

/-- Skips blanks, comments and line ends in front of the next token. -/
def skipGap : Nat → Lexer → Lexer
  | 0, l => l
  | fuel + 1, l =>
    let c := l.cursor
    let c := c.skip (c.count (· == ' '))
    let c := if c.peek 0 == '#' then c.skip (c.count fun ch => !isBreak ch) else c
    match c.lineBreak? with
    | some _ =>
      skipGap fuel { l with cursor := c.next, keyAllowed := l.keyAllowed || !l.inFlow }
    | none => l.moveTo c

/-- A mark between documents closes all blocks. -/
def documentMark (l : Lexer) (t : Token) : Option Lexer := do
  let l ← (l.closeBlocks (-1)).giveUpKey
  return { l.push t with keyAllowed := false, cursor := l.cursor.skip 3 }

/-- The start of a collection in brackets. -/
def openFlow (l : Lexer) (t : Token) : Option Lexer := do
  let l ← l.noteKey
  return { l.push t with flow := l.flow + 1, keyAllowed := true, cursor := l.cursor.next }

/-- The end of a collection in brackets. -/
def closeFlow (l : Lexer) (t : Token) : Option Lexer := do
  let l ← l.giveUpKey
  return { l.push t with flow := l.flow - 1, keyAllowed := false, cursor := l.cursor.next }

/-- A comma in brackets. -/
def flowEntry (l : Lexer) : Option Lexer := do
  let l ← { l with keyAllowed := true }.giveUpKey
  return { l.push .flowEntry with cursor := l.cursor.next }

/-- Opens a block for an item if it stands further in. -/
def opened (l : Lexer) (start : Token) : Lexer :=
  match l.openBlock? l.cursor.column with
  | some inner => inner.push start
  | none => l

/-- A hyphen in front of an item. -/
def blockEntry (l : Lexer) : Option Lexer := do
  let l ← if l.inFlow then some l
    else if l.keyAllowed then some (l.opened .sequenceStart) else none
  let l ← { l with keyAllowed := true }.giveUpKey
  return { l.push .blockEntry with cursor := l.cursor.next }

/-- A question mark in front of a key. -/
def explicitKey (l : Lexer) : Option Lexer := do
  let l ← if l.inFlow then some l
    else if l.keyAllowed then some (l.opened .mappingStart) else none
  let l ← { l with keyAllowed := !l.inFlow }.giveUpKey
  return { l.push .key with cursor := l.cursor.next }

/-- Inserts tokens in front of the token with a number. -/
def insertAt (l : Lexer) (n : Nat) (ts : List Token) : Lexer :=
  { l with tokens := l.tokens.take n ++ ts ++ l.tokens.drop n }

/-- A colon: what may have been a key becomes one. -/
def valueMark (l : Lexer) : Option Lexer := do
  let l ← match l.key? with
    | some k =>
      let l := l.dropKey
      let l := match (if l.inFlow then none else l.openBlock? k.column) with
        | some inner => inner.insertAt k.token [.mappingStart, .key]
        | none => l.insertAt k.token [.key]
      some { l with keyAllowed := false }
    | none =>
      if !l.inFlow && !l.keyAllowed then none
      else
        let l := if l.inFlow then l else l.opened .mappingStart
        { l with keyAllowed := !l.inFlow }.giveUpKey
  return { l.push .value with cursor := l.cursor.next }

/-- A character of a name. -/
def isNameChar (c : Char) : Bool := c.isAlphanum || c == '-' || c == '_'

/-- The name of an anchor or an alias behind its mark. -/
def named (l : Lexer) (token : String → Token) : Option Lexer := do
  let l ← l.noteKey
  let c := l.cursor.next
  let length := c.count isNameChar
  let after := c.skip length
  let ends := isGap (after.peek 0) || "?:,]\x7d%@`".contains (after.peek 0)
  if length = 0 || !ends then none
  else some { l.push (token (String.ofList (c.word length))) with
    cursor := after, keyAllowed := false }

/-- A tag: an exclamation mark and all up to the next gap. -/
def tagged (l : Lexer) : Option Lexer := do
  let l ← l.noteKey
  let length := l.cursor.count fun c => !isGap c
  let name := String.ofList (l.cursor.word length)
  return { l.push (.tag name) with cursor := l.cursor.skip length, keyAllowed := false }

/-- A directive takes the rest of its line, whatever it says. -/
def directive (l : Lexer) : Option Lexer := do
  let l ← (l.closeBlocks (-1)).giveUpKey
  let c := l.cursor.next
  if !isNameChar (c.peek 0) then none
  else some { l.push .directive with
    cursor := c.skip (c.count fun ch => !isBreak ch), keyAllowed := false }

/-- A scalar in marks. -/
def quoted (l : Lexer) (double : Bool) : Option Lexer := do
  let l ← l.noteKey
  let (text, c) ← quotedScalar double (l.cursor.rest.length + 1) l.cursor.next []
  return { l.push (.scalar (String.ofList text) false) with cursor := c, keyAllowed := false }

/-- A scalar without marks. After a line end a new key may begin. -/
def plain (l : Lexer) : Option Lexer := do
  let l ← l.noteKey
  let (text, lineEnded, c) :=
    plainScalar l.inFlow (l.indent + 1) (l.cursor.rest.length + 1) l.cursor [] [] false
  return { l.push (.scalar (String.ofList text) true) with cursor := c, keyAllowed := lineEnded }

/-- A plain scalar can begin with this character, before the given one. -/
def startsPlain (inFlow : Bool) (c after : Char) : Bool :=
  !(isGap c || "-?:,[]\x7b\x7d#&*!|>'\"%@`".contains c) ||
    (!isGap after && (c == '-' || (!inFlow && (c == '?' || c == ':'))))

/-- Reads the next token; the text is not at its end. No token begins with a bar or an angle
bracket. -/
def token (l : Lexer) : Option Lexer :=
  let c := l.cursor
  let ch := c.peek 0
  let after := c.peek 1
  if ch == '%' && c.column == 0 then l.directive
  else if c.column == 0 && c.atDocumentMark then
    l.documentMark (if ch == '-' then .documentStart else .documentEnd)
  else if ch == '[' then l.openFlow .flowSequenceStart
  else if ch == '\x7b' then l.openFlow .flowMappingStart
  else if ch == ']' then l.closeFlow .flowSequenceEnd
  else if ch == '\x7d' then l.closeFlow .flowMappingEnd
  else if ch == ',' then l.flowEntry
  else if ch == '-' && isGap after then l.blockEntry
  else if ch == '?' && (l.inFlow || isGap after) then l.explicitKey
  else if ch == ':' && (l.inFlow || isGap after) then l.valueMark
  else if ch == '*' then l.named .alias
  else if ch == '&' then l.named .anchor
  else if ch == '!' then l.tagged
  else if ch == '\'' then l.quoted false
  else if ch == '"' then l.quoted true
  else if startsPlain l.inFlow ch after then l.plain
  else none

/-- The tokens that a reader gets to see when reading breaks off: a token whose end is not known
yet, because it may begin a key, is not one of them. -/
def breakOff (l : Lexer) : Tokens :=
  { list := l.tokens.take (l.keys.foldl (fun n k => min n k.2.token) l.tokens.length)
    broken := true }

/-- Reads all tokens. -/
def run : Nat → Lexer → Tokens
  | 0, l => l.breakOff
  | fuel + 1, l =>
    match l.dropStale with
    | none => l.breakOff
    | some before =>
      match (skipGap (before.cursor.rest.length + 1) before).dropStale with
      | none => before.breakOff
      | some l =>
        let l := l.closeBlocks l.cursor.column
        if l.cursor.rest.isEmpty then
          match (l.closeBlocks (-1)).giveUpKey with
          | none => before.breakOff
          | some l => { list := (l.push .streamEnd).tokens, broken := false }
        else
          match l.token with
          | none => before.breakOff
          | some l => run fuel l

end Lexer

/-- The tokens of a text. -/
def Tokens.ofText (s : String) : Tokens :=
  let chars := s.toList
  let body := match chars with
    | '\ufeff' :: rest => rest
    | _ => chars
  Lexer.run (body.length + 2) { cursor := { rest := body } }

end SnapshotViewer.Yaml
