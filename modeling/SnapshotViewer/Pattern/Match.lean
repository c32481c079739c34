import SnapshotViewer.Pattern.Basic

/-!
# Matching

A position in the text is the rest of the text from there on. `ends` lists the positions at which a
match that begins at a given position can end, each once. A pattern matches a text as a whole when
one of the ends is the end of the text.
-/

namespace SnapshotViewer.Pattern

/-- A position: the rest of the text. -/
abbrev Position := List Char

/-- Adds positions that are not listed yet. Positions of one text are told apart by their
lengths. -/
def addNew (known : List Position) : List Position → List Position
  | [] => known
  | p :: rest =>
    if known.any (·.length == p.length) then addNew known rest else addNew (known ++ [p]) rest

/-- The positions after one more step from any of the given ones. -/
def advance (step : Position → List Position) (starts : List Position) : List Position :=
  starts.foldl (fun found p => addNew found (step p)) []

/-- The positions after exactly `n` steps. -/
def exactly (step : Position → List Position) : Nat → List Position → List Position
  | 0, ps => ps
  | n + 1, ps => if ps.isEmpty then [] else exactly step n (advance step ps)

/-- The positions after at most `n` steps. -/
def atMost (step : Position → List Position) : Nat → List Position → List Position
  | 0, ps => ps
  | n + 1, ps =>
    let more := addNew ps (advance step ps)
    if more.length == ps.length then ps else atMost step n more

/-- The positions at which a match of the pattern can end. `total` is the length of the whole text.
A step either stays or moves forward, so that more than `total + 1` steps reach nothing new. -/
def ends (foldCase : Bool) (total : Nat) : Node → Position → List Position
  | .empty, p => [p]
  | .atom _, [] => []
  | .atom a, c :: rest => if a.accepts foldCase c then [rest] else []
  | .atStart, p => if p.length == total then [p] else []
  | .atEnd, p => if p == [] || p == ['\n'] then [p] else []
  | .seq first second, p => advance (ends foldCase total second) (ends foldCase total first p)
  | .alt first second, p => addNew (ends foldCase total first p) (ends foldCase total second p)
  | .repeated least most body, p =>
    let required := exactly (ends foldCase total body) (min least (total + 1)) [p]
    let optional := match most with
      | some most => min (most - least) (total + 1)
      | none => total + 1
    atMost (ends foldCase total body) optional required

end Pattern

/-- The pattern matches the text as a whole. -/
def Pattern.fullMatch (pattern : Pattern) (s : String) : Bool :=
  let text := s.toList
  (Pattern.ends pattern.foldCase text.length pattern.body text).any (·.isEmpty)

end SnapshotViewer
