import SnapshotViewer.OrderedMap
import SnapshotViewer.Snapshot.Basic

/-!
# Labels

A template is text with placeholders: a key in square brackets, where a key is not empty and holds
no bracket. Expanding it replaces each placeholder by the value of its key, or by a question mark,
and copies all else.
-/

namespace SnapshotViewer.Label

/-- Expands a template. The second argument holds, in reverse order, the characters since an opening
bracket that may begin a placeholder. -/
def expand (value? : List Char → Option (List Char)) (opened : Option (List Char)) :
    List Char → List Char
  | [] =>
    match opened with
    | none => []
    | some key => '[' :: key.reverse
  | c :: rest =>
    match opened with
    | none => if c = '[' then expand value? (some []) rest else c :: expand value? none rest
    | some key =>
      if c = '[' then '[' :: key.reverse ++ expand value? (some []) rest
      else if c = ']' then
        if key.isEmpty then '[' :: ']' :: expand value? none rest
        else (value? key.reverse).getD ['?'] ++ expand value? none rest
      else expand value? (some (c :: key)) rest

/-- The text of a template for some properties. -/
def resolve (template : String) (properties : Properties) : String :=
  let value? := fun key => (properties.get? (String.ofList key)).map String.toList
  String.ofList (expand value? none template.toList)

/-- The property that holds the id of a node unless the node has a property of that name. -/
def idProperty : String := "idx"

/-- The properties that the label of a node can use. -/
def propertiesOf (n : Node) : Properties :=
  (OrderedMap.empty.insert idProperty (Numeral.write n.id)).insertAll n.properties.entries

end SnapshotViewer.Label
