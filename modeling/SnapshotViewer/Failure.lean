import SnapshotViewer.DisplayMode
import SnapshotViewer.Numeral
import SnapshotViewer.Text.Quoted

/-!
# What can go wrong

One cause per constructor, with the data that its message needs.
-/

namespace SnapshotViewer

/-- The classes of errors in a YAML text. -/
inductive YamlError where
  | unreadable
  | badToken
  | badStructure
  | badComposition
  | badValue
deriving DecidableEq

/-- A cause of failure. -/
inductive Failure where
  | badNumeral (text : String)
  | danglingEdge
  | invalidWindow (low high size : Int)
  | notInSequence (snapshot : String)
  | onlyDuplicates
  | nestedDifference (snapshot : String)
  | notAMember (snapshot group : String)
  | foreignSnapshot (snapshot group : String)
  | ungrouped (snapshot : String)
  | filterNotListed
  | filterNotFound (label : String)
  | badDefaultView (literal : String)
  | notAMapping (path : String)
  | unknownLevel (name : String)
  | noScheduler (snapshot : String)
  | missingKey (key : String)
  | wrongType
  | noSuchMember
  | outOfRange
  | notImplemented
  | noSuchFile
  | badJson
  | badYaml (e : YamlError)
  | badPattern
  | noSuchHandle
deriving DecidableEq

/-- The message of a failure, where it has one. -/
def Failure.message : Failure → Option String
  | .badNumeral text =>
    some ("invalid literal for int() with base 10: " ++
      String.ofList ((Text.quoteChars text.toList).take 200))
  | .danglingEdge => some "source and target must exist in the snapshot"
  | .invalidWindow low high size =>
    some ("window [" ++ Numeral.write low ++ ", " ++ Numeral.write high ++ "] is invalid for " ++
      Numeral.write size ++ " positions")
  | .notInSequence snapshot =>
    some ("snapshot " ++ Text.quote snapshot ++ " is not in the sequence")
  | .onlyDuplicates => some "every snapshot in the sequence is a duplicate"
  | .nestedDifference snapshot =>
    some ("cannot compare nested difference snapshot " ++ Text.quote snapshot)
  | .notAMember snapshot group =>
    some ("snapshot " ++ Text.quote snapshot ++ " is not part of " ++ Text.quote group)
  | .foreignSnapshot snapshot group =>
    some ("snapshot " ++ Text.quote snapshot ++ " does not belong to group " ++ Text.quote group)
  | .ungrouped snapshot =>
    some ("snapshot " ++ Text.quote snapshot ++ " does not belong to a group")
  | .filterNotListed => some "list.remove(x): x not in list"
  | .filterNotFound label => some (label ++ " is not in list")
  | .badDefaultView literal =>
    some ("default_view must be one of [" ++
      String.intercalate ", " (DisplayMode.all.map fun m => Text.quote m.text) ++ "], got " ++
      literal)
  | .notAMapping path => some (path ++ " must contain a mapping")
  | .unknownLevel name => some ("Unknown level: " ++ Text.quote name)
  | .noScheduler snapshot =>
    some ("no scheduler configured to assign blocks to " ++ Text.quote snapshot)
  | .missingKey key => some key
  | _ => none

end SnapshotViewer
