import SnapshotViewer.Failure
import SnapshotViewer.Yaml.Scalar
import SnapshotViewer.Yaml.Token.Lexer

/-!
# Documents

A text holds at most one document, and a document one value. The structure of the whole text is
checked before any scalar is looked at: `Node` keeps scalars as they were written.

What is read is a part of the language, enough for files of settings: maps and lists as blocks and in
brackets, plain and quoted scalars, anchors, merge keys, and the tags `!` and `!!str`. Scalars that
are blocks of lines and all other tags are refused, directives are skipped, and dates are texts.
-/

namespace SnapshotViewer.Yaml

/-- A part of a document, with the scalars as they were written. -/
inductive Node where
  | scalar (text : String) (isPlain : Bool)
  | list (items : List Node)
  | map (entries : List (Node × Node))
  | tagged (name : String) (n : Node)
deriving Inhabited

/-- Two parts are the same scalar. -/
def Node.isScalar : Node → Node → Bool
  | .scalar s p, .scalar t q => s == t && p == q
  | _, _ => false

/-- A part that is not there. -/
def Node.empty : Node := .scalar "" true

/-- What is left to read: tokens, whether they break off, and the parts that have names. -/
structure Reader where
  tokens : List Token
  broken : Bool
  names : List (String × Node) := []

namespace Reader

/-- A step of reading. -/
abbrev Step (α : Type) := Reader → Except YamlError (α × Reader)

/-- The next token. Behind the last one the text is unreadable or at its end. -/
def next (r : Reader) : Except YamlError Token :=
  match r.tokens with
  | t :: _ => .ok t
  | [] => if r.broken then .error .badToken else .ok .streamEnd

/-- Leaves the next token behind. -/
def drop (r : Reader) : Reader := { r with tokens := r.tokens.tail }

mutual

/-- Reads a part. Blocks are allowed in a block only; `indentless` allows items that stand at the
column of their key. -/
def node (block indentless : Bool) : Nat → Step Node
  | 0, _ => .error .badStructure
  | fuel + 1, r => do
    match ← r.next with
    | .alias name =>
      match r.names.find? (·.1 == name) with
      | some (_, n) => return (n, r.drop)
      | none => .error .badComposition
    | .anchor name => do
      let (n, r) ← optionalNode block indentless fuel r.drop
      return (n, { r with names := (name, n) :: r.names })
    | .tag name => do
      let (n, r) ← optionalNode block indentless fuel r.drop
      return (.tagged name n, r)
    | t => content block indentless t fuel r

/-- Reads the part behind an anchor or a tag, which may be missing. -/
def optionalNode (block indentless : Bool) : Nat → Step Node
  | 0, _ => .error .badStructure
  | fuel + 1, r => do
    match ← r.next with
    | .scalar .. | .flowSequenceStart | .flowMappingStart | .anchor _ | .tag _ =>
      node block indentless fuel r
    | .sequenceStart | .mappingStart =>
      if block then node block indentless fuel r else return (.empty, r)
    | .blockEntry => if indentless then node block indentless fuel r else return (.empty, r)
    | _ => return (.empty, r)

/-- Reads a part that begins with a given token. -/
def content (block indentless : Bool) (t : Token) : Nat → Step Node
  | 0, _ => .error .badStructure
  | fuel + 1, r => do
    match t with
    | .blockEntry =>
      if indentless then
        let (items, r) ← looseItems fuel r
        return (.list items, r)
      else .error .badStructure
    | .scalar text isPlain => return (.scalar text isPlain, r.drop)
    | .flowSequenceStart =>
      let (items, r) ← flowItems true fuel r.drop
      return (.list items, r)
    | .flowMappingStart =>
      let (entries, r) ← flowEntries true fuel r.drop
      return (.map entries, r)
    | .sequenceStart =>
      if block then
        let (items, r) ← blockItems fuel r.drop
        return (.list items, r)
      else .error .badStructure
    | .mappingStart =>
      if block then
        let (entries, r) ← blockEntries fuel r.drop
        return (.map entries, r)
      else .error .badStructure
    | _ => .error .badStructure

/-- Reads the items of a block up to its end. -/
def blockItems : Nat → Step (List Node)
  | 0, _ => .error .badStructure
  | fuel + 1, r => do
    match ← r.next with
    | .blockEntry =>
      let r := r.drop
      let (n, r) ← match ← r.next with
        | .blockEntry | .blockEnd => pure (Node.empty, r)
        | _ => node true false fuel r
      let (items, r) ← blockItems fuel r
      return (n :: items, r)
    | .blockEnd => return ([], r.drop)
    | _ => .error .badStructure

/-- Reads items at the column of their key. -/
def looseItems : Nat → Step (List Node)
  | 0, _ => .error .badStructure
  | fuel + 1, r => do
    match ← r.next with
    | .blockEntry =>
      let r := r.drop
      let (n, r) ← match ← r.next with
        | .blockEntry | .key | .value | .blockEnd => pure (Node.empty, r)
        | _ => node true false fuel r
      let (items, r) ← looseItems fuel r
      return (n :: items, r)
    | _ => return ([], r)

/-- Reads the entries of a block up to its end. -/
def blockEntries : Nat → Step (List (Node × Node))
  | 0, _ => .error .badStructure
  | fuel + 1, r => do
    match ← r.next with
    | .key =>
      let r := r.drop
      let (k, r) ← match ← r.next with
        | .key | .value | .blockEnd => pure (Node.empty, r)
        | _ => node true true fuel r
      let (v, r) ← match ← r.next with
        | .value => do
          let r := r.drop
          match ← r.next with
          | .key | .value | .blockEnd => pure (Node.empty, r)
          | _ => node true true fuel r
        | _ => pure (Node.empty, r)
      let (entries, r) ← blockEntries fuel r
      return ((k, v) :: entries, r)
    | .blockEnd => return ([], r.drop)
    | _ => .error .badStructure

/-- Reads the value of an entry in brackets, if it has one. -/
def flowValue (close : Token) : Nat → Step Node
  | 0, _ => .error .badStructure
  | fuel + 1, r => do
    match ← r.next with
    | .value =>
      let r := r.drop
      let t ← r.next
      if t = .flowEntry ∨ t = close then return (.empty, r) else node false false fuel r
    | _ => return (.empty, r)

/-- Reads the key of an entry in brackets, behind its mark. -/
def flowKey (close : Token) : Nat → Step Node
  | 0, _ => .error .badStructure
  | fuel + 1, r => do
    let t ← r.next
    if t = .value ∨ t = .flowEntry ∨ t = close then return (.empty, r)
    else node false false fuel r

/-- Reads the items of a list in brackets. A comma stands in front of every item but the first. -/
def flowItems (first : Bool) : Nat → Step (List Node)
  | 0, _ => .error .badStructure
  | fuel + 1, r => do
    match ← r.next with
    | .flowSequenceEnd => return ([], r.drop)
    | t =>
      let r ← if first then pure r else if t = .flowEntry then pure r.drop else .error .badStructure
      match ← r.next with
      | .key =>
        let (k, r) ← flowKey .flowSequenceEnd fuel r.drop
        let (v, r) ← flowValue .flowSequenceEnd fuel r
        let (items, r) ← flowItems false fuel r
        return (.map [(k, v)] :: items, r)
      | .flowSequenceEnd => return ([], r.drop)
      | _ =>
        let (n, r) ← node false false fuel r
        let (items, r) ← flowItems false fuel r
        return (n :: items, r)

/-- Reads the entries of a map in brackets. -/
def flowEntries (first : Bool) : Nat → Step (List (Node × Node))
  | 0, _ => .error .badStructure
  | fuel + 1, r => do
    match ← r.next with
    | .flowMappingEnd => return ([], r.drop)
    | t =>
      let r ← if first then pure r else if t = .flowEntry then pure r.drop else .error .badStructure
      match ← r.next with
      | .key =>
        let (k, r) ← flowKey .flowMappingEnd fuel r.drop
        let (v, r) ← flowValue .flowMappingEnd fuel r
        let (entries, r) ← flowEntries false fuel r
        return ((k, v) :: entries, r)
      | .flowMappingEnd => return ([], r.drop)
      | _ =>
        let (k, r) ← node false false fuel r
        let (entries, r) ← flowEntries false fuel r
        return ((k, .empty) :: entries, r)

end

/-- Leaves tokens behind while they are of a kind. -/
def dropWhile (t : Token) (r : Reader) : Reader :=
  { r with tokens := r.tokens.dropWhile (· == t) }

/-- The bound that the number of tokens puts on the reading of one part. -/
def bound (r : Reader) : Nat := 4 * r.tokens.length + 4

/-- Reads the start of a further document behind the first token: there is one, or the text ends. -/
def furtherDocument (r : Reader) : Except YamlError Unit := do
  let r := r.dropWhile .documentEnd
  match ← r.next with
  | .streamEnd => return ()
  | .documentStart => .error .badComposition
  | .directive =>
    let r := r.dropWhile .directive
    match ← r.next with
    | .documentStart => .error .badComposition
    | _ => .error .badStructure
  | _ => .error .badStructure

/-- Reads the part of a document whose start is marked. -/
def markedDocument (r : Reader) : Except YamlError (Node × Reader) := do
  match ← r.next with
  | .directive | .documentStart | .documentEnd | .streamEnd => return (.empty, r)
  | _ => node true false r.bound r

/-- Reads the only document of a text, if there is one. -/
def document? (r : Reader) : Except YamlError (Option Node) := do
  let read : Option (Node × Reader) ← match ← r.next with
    | .streamEnd => pure none
    | .directive | .documentStart => do
      let r := r.dropWhile .directive
      match ← r.next with
      | .documentStart => do
        let found ← markedDocument r.drop
        pure (some found)
      | _ => .error .badStructure
    | _ => do
      let found ← node true false r.bound r
      pure (some found)
  match read with
  | none => return none
  | some (n, r) =>
    furtherDocument r
    return some n

end Reader

/-- The value of a plain scalar. -/
def plainValue (text : String) : Except YamlError Value :=
  match plainScalar? text with
  | some s => .ok (.scalar s)
  | none => .error .badValue

/-- The key that merges the entries of other maps into a map. -/
def mergeKey : Node := .scalar "<<" true

/-- The key for a default value, which stands for itself. -/
def defaultKey : Node := .scalar "=" true

mutual

/-- The value of a part. A tag of one mark changes nothing, but makes any scalar a plain one. -/
def Node.value : Node → Except YamlError Value
  | .scalar text isPlain => if isPlain then plainValue text else .ok (.text text)
  | .list items => do return .list (← itemValues items)
  | .map entries => do
    let (merged, own) ← entryValues entries
    return .ofEntries (merged ++ own)
  | .tagged name (.scalar text _) =>
    if name == "!" then plainValue text
    else if name == "!!str" then .ok (.text text)
    else .error .badValue
  | .tagged name n => if name == "!" then n.value else .error .badValue

/-- The values of items. -/
def itemValues : List Node → Except YamlError (List Value)
  | [] => .ok []
  | n :: rest => do return (← n.value) :: (← itemValues rest)

/-- The values of the entries of a map: those that are merged into it, and its own. Keys have to be
scalars. -/
def entryValues :
    List (Node × Node) → Except YamlError (List (Scalar × Value) × List (Scalar × Value))
  | [] => .ok ([], [])
  | (k, v) :: rest => do
    if k.isScalar mergeKey then
      let found ← v.merged
      let (merged, own) ← entryValues rest
      return (found ++ merged, own)
    else
      let key ← if k.isScalar defaultKey then .ok (.text "=") else k.value
      match key with
      | .scalar key =>
        let value ← v.value
        let (merged, own) ← entryValues rest
        return (merged, (key, value) :: own)
      | _ => .error .badValue

/-- The entries that the value of a merge key contributes. -/
def Node.merged : Node → Except YamlError (List (Scalar × Value))
  | .map entries => do
    let (merged, own) ← entryValues entries
    return merged ++ own
  | .list items => mergedItems items
  | _ => .error .badValue

/-- The entries that a list of maps contributes, those of the last map first. -/
def mergedItems : List Node → Except YamlError (List (Scalar × Value))
  | [] => .ok []
  | .map entries :: rest => do
    let (merged, own) ← entryValues entries
    return (← mergedItems rest) ++ (merged ++ own)
  | _ :: _ => .error .badValue

end

/-- A character that a text may hold. -/
def isReadable (c : Char) : Bool :=
  let n := c.toNat
  n == 0x9 || n == 0xa || n == 0xd || (0x20 ≤ n && n ≤ 0x7e) || n == 0x85 ||
    (0xa0 ≤ n && n ≤ 0xfffd) || 0x10000 ≤ n

/-- Reads a text as one value; a text without a document is a missing value. A text beyond the part
of the language that is described above is refused, or its dates read as texts. -/
def read (s : String) : Except YamlError Value :=
  if !s.toList.all isReadable then .error .unreadable
  else
    let tokens := Tokens.ofText s
    match Reader.document? { tokens := tokens.list, broken := tokens.broken } with
    | .error e => .error e
    | .ok none => .ok .null
    | .ok (some n) => n.value

/-! ## Keys of what is read -/

theorem keysDiffer_plainValue {text : String} {v : Value} (h : plainValue text = .ok v) :
    v.KeysDiffer := by
  unfold plainValue at h
  split at h
  · cases h
    exact Value.keysDiffer_scalar _
  · cases h

theorem keysDiffer_value (n : Node) {v : Value} (h : n.value = .ok v) : v.KeysDiffer := by
  unfold Node.value at h
  split at h
  · split at h
    · exact keysDiffer_plainValue h
    · cases h
      exact Value.keysDiffer_scalar _
  · rename_i items
    cases hitems : itemValues items with
    | error e =>
      rw [hitems] at h
      cases h
    | ok values =>
      rw [hitems] at h
      cases h
      exact Value.keysDiffer_list _
  · rename_i entries
    cases hentries : entryValues entries with
    | error e =>
      rw [hentries] at h
      cases h
    | ok found =>
      rw [hentries] at h
      cases h
      exact Value.keysDiffer_ofEntries _
  · split at h
    · exact keysDiffer_plainValue h
    split at h
    · cases h
      exact Value.keysDiffer_scalar _
    · cases h
  · rename_i m _
    split at h
    · exact keysDiffer_value m h
    · cases h

theorem keysDiffer_read {s : String} {v : Value} (h : read s = .ok v) : v.KeysDiffer := by
  unfold read at h
  split at h
  · cases h
  · dsimp only at h
    split at h
    · cases h
    · cases h
      exact Value.keysDiffer_scalar _
    · exact keysDiffer_value _ h

end SnapshotViewer.Yaml
