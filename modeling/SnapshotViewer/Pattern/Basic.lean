import SnapshotViewer.Text.Blank
import SnapshotViewer.Text.CaseFold
import SnapshotViewer.Text.Digit
import SnapshotViewer.Text.Word

/-!
# Patterns of text

The syntax of patterns and what each of its atoms accepts.
-/

namespace SnapshotViewer

namespace Pattern

/-- A named class of characters. -/
inductive CharClass where
  | digit
  | blank
  | word
deriving DecidableEq

/-- A character belongs to a named class. -/
def CharClass.holds : CharClass → Char → Bool
  | .digit, c => Text.isDigit c
  | .blank, c => Text.isBlank c
  | .word, c => Text.isWord c

/-- One entry of a set of characters. -/
inductive SetItem where
  | range (first last : Char)
  | inClass (k : CharClass)
  | notInClass (k : CharClass)
deriving DecidableEq

/-- A character is covered by an entry of a set. -/
def SetItem.holds : SetItem → Char → Bool
  | .range first last, c => first ≤ c && c ≤ last
  | .inClass k, c => k.holds c
  | .notInClass k, c => !k.holds c

/-- What a pattern accepts as one character. -/
inductive Atom where
  | anyInLine
  | oneOf (items : List SetItem)
  | noneOf (items : List SetItem)
deriving DecidableEq

/-- The atom of one character. -/
def Atom.exactly (c : Char) : Atom := .oneOf [.range c c]

/-- Some entry covers the character, or a variant of it if case does not count. -/
def covers (foldCase : Bool) (items : List SetItem) (c : Char) : Bool :=
  if foldCase then (Text.caseVariants c).any fun v => items.any (·.holds v)
  else items.any (·.holds c)

/-- An atom accepts a character. -/
def Atom.accepts (foldCase : Bool) : Atom → Char → Bool
  | .anyInLine, c => c != '\n'
  | .oneOf items, c => covers foldCase items c
  | .noneOf items, c => !covers foldCase items c

/-- The syntax of a pattern. -/
inductive Node where
  | empty
  | atom (a : Atom)
  | atStart
  | atEnd
  | seq (first second : Node)
  | alt (first second : Node)
  | repeated (least : Nat) (most : Option Nat) (body : Node)
deriving DecidableEq

end Pattern

/-- A pattern, which may take capitals and small letters as the same. -/
structure Pattern where
  foldCase : Bool
  body : Pattern.Node
deriving DecidableEq

end SnapshotViewer
