/-!
# Tokens of YAML text

The tokens carry the structure: the indentation of blocks is turned into starts and ends.
-/

namespace SnapshotViewer.Yaml

/-- A token of YAML text. A scalar is plain when it stands without marks. -/
inductive Token where
  | streamEnd
  | directive
  | documentStart
  | documentEnd
  | sequenceStart
  | mappingStart
  | blockEnd
  | flowSequenceStart
  | flowSequenceEnd
  | flowMappingStart
  | flowMappingEnd
  | flowEntry
  | blockEntry
  | key
  | value
  | anchor (name : String)
  | alias (name : String)
  | tag (name : String)
  | scalar (text : String) (isPlain : Bool)
deriving DecidableEq

/-- The tokens of a text: those that can be read, and whether reading broke off behind them. -/
structure Tokens where
  list : List Token
  broken : Bool

end SnapshotViewer.Yaml
