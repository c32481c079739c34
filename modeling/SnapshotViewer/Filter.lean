import SnapshotViewer.Diagram
import SnapshotViewer.Difference
import SnapshotViewer.Pattern.Match
import SnapshotViewer.Pattern.Parser

/-!
# Filters

A filter changes the figures of a diagram. A colour filter has rules, each with a property, a
pattern and a colour: a figure takes the colour of the last rule whose pattern matches the
property.
-/

namespace SnapshotViewer

/-- The handle of a filter. -/
abbrev FilterRef := Nat

/-- Gives a colour to the figures whose property matches a pattern as a whole. There are rules only
for the patterns that `Pattern.ofText?` reads. -/
structure ColorRule where
  property : String
  pattern : Pattern
  color : String
deriving DecidableEq

namespace ColorRule

/-- Reads a rule. -/
def ofTexts (property pattern color : String) : Except Failure ColorRule :=
  match Pattern.ofText? pattern with
  | some pattern => .ok { property, pattern, color }
  | none => .error .badPattern

/-- The rule picks a node with these properties. -/
def picks (r : ColorRule) (properties : Properties) : Bool :=
  match properties.get? r.property with
  | some value => r.pattern.fullMatch value
  | none => false

/-- Colours the figures that the rule picks. -/
def paint (r : ColorRule) (figures : List Figure) : List Figure :=
  figures.map fun f => if r.picks f.node.properties then { f with color := r.color } else f

/-- The colour of each state of a difference. -/
def stateColors : List (Difference.State × String) :=
  [(.same, "white"), (.changed, "orange"), (.added, "green"), (.deleted, "red")]

/-- The rules that colour the nodes of a difference by their states. -/
def forStates : List ColorRule :=
  stateColors.map fun (state, color) =>
    { property := Difference.stateProperty
      pattern := ⟨false, state.text.toList.foldr (fun c n => .seq (.atom (.exactly c)) n) .empty⟩
      color }

end ColorRule

/-- A named change of figures. Other filters than colour filters name their kind and come with the
change that they make. -/
inductive Filter where
  | color (name : String) (rules : List ColorRule)
  | other (kind name : String) (change : List Figure → Except Failure (List Figure))

namespace Filter

/-- The filter that colours the nodes of a difference by their states. -/
def diffState : Filter := .color "diff state" ColorRule.forStates

/-- The kind and the name of a filter. -/
def label : Filter → String
  | .color name _ => "ColorFilter(" ++ Text.quote name ++ ")"
  | .other kind name _ => kind ++ "(" ++ Text.quote name ++ ")"

/-- Appends a rule. Only colour filters have rules. -/
def addRule : Filter → ColorRule → Except Failure Filter
  | .color name rules, r => .ok (.color name (rules ++ [r]))
  | .other .., _ => .error .noSuchMember

/-- Changes figures. -/
def apply : Filter → List Figure → Except Failure (List Figure)
  | .color _ rules, figures => .ok (rules.foldl (fun figures r => r.paint figures) figures)
  | .other _ _ change, figures => change figures

end Filter

/-- What a run of filters leaves: the figures, the handles of the filters that were begun, in order,
and the failure that ended the run. -/
structure Painting where
  figures : List Figure
  begun : List FilterRef := []
  failure : Option Failure := none

/-- Runs filters one after the other and stops at the first failure. -/
def Painting.run : List (FilterRef × Filter) → List Figure → Painting
  | [], figures => { figures }
  | (ref, f) :: rest, figures =>
    match f.apply figures with
    | .ok changed => let p := run rest changed; { p with begun := ref :: p.begun }
    | .error e => { figures, begun := [ref], failure := some e }

end SnapshotViewer
