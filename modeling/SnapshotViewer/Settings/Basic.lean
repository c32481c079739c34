import SnapshotViewer.Diagram
import SnapshotViewer.Log

/-!
# Settings

Seven settings can be changed by a file. `Settings.apply` assigns the entries of a document in their
order; an entry whose key is no setting is skipped.
-/

namespace SnapshotViewer

/-- The mode that a value names. -/
def DisplayMode.ofValue? : Value → Option DisplayMode
  | .scalar (.text s) => all.find? fun m => m.text == s
  | _ => none

/-- The settings that a file can change. -/
inductive Setting where
  | defaultView
  | nodeText
  | nodeShortText
  | nodeTinyText
  | hideDuplicates
  | logLevel
  | logFile
deriving DecidableEq

namespace Setting

/-- All settings. -/
def all : List Setting :=
  [.defaultView, .nodeText, .nodeShortText, .nodeTinyText, .hideDuplicates, .logLevel, .logFile]

/-- The key of a setting. -/
def key : Setting → String
  | .defaultView => "default_view"
  | .nodeText => "node_text"
  | .nodeShortText => "node_short_text"
  | .nodeTinyText => "node_tiny_text"
  | .hideDuplicates => "hide_duplicates"
  | .logLevel => "log_level"
  | .logFile => "log_file"

/-- The setting with a key. -/
def ofKey? (key : String) : Option Setting := all.find? fun s => s.key == key

end Setting

/-- The settings of the viewer. All but the mode hold whatever the file held. -/
structure Settings where
  defaultView : DisplayMode := .seaOfNodes
  nodeText : Value := .text "[idx] [name]"
  nodeShortText : Value := .text "[idx] [name]"
  nodeTinyText : Value := .text "[idx]"
  hideDuplicates : Value := .bool false
  logLevel : Value := .text "info"
  logFile : Value := .null
  /-- The path of the file that was loaded last. -/
  file : String := "/input/config.json"

namespace Settings

/-- The value of a setting. -/
def get (s : Settings) : Setting → Value
  | .defaultView => .text s.defaultView.text
  | .nodeText => s.nodeText
  | .nodeShortText => s.nodeShortText
  | .nodeTinyText => s.nodeTinyText
  | .hideDuplicates => s.hideDuplicates
  | .logLevel => s.logLevel
  | .logFile => s.logFile

/-- The mode in which a view opens, if the setting names one. -/
def viewMode? (s : Settings) : Option DisplayMode := DisplayMode.ofValue? (s.get .defaultView)

/-- Assigns a setting. A value that names no mode would leave the mode as it was, but none comes
here: `Settings.apply` has refused it, and a document has no second value for the key. -/
def set (s : Settings) (k : Setting) (v : Value) : Settings :=
  match k with
  | .defaultView => { s with defaultView := (DisplayMode.ofValue? v).getD s.defaultView }
  | .nodeText => { s with nodeText := v }
  | .nodeShortText => { s with nodeShortText := v }
  | .nodeTinyText => { s with nodeTinyText := v }
  | .hideDuplicates => { s with hideDuplicates := v }
  | .logLevel => { s with logLevel := v }
  | .logFile => { s with logFile := v }

/-- The templates of the labels. -/
def templates (s : Settings) : Templates := ⟨s.nodeText, s.nodeShortText, s.nodeTinyText⟩

/-- Assigns the entries of a document one after the other. A key that is no text ends this, and the
entries before it stay assigned. -/
def assignAll (s : Settings) : List (Scalar × Value) → Settings × Except Failure Unit
  | [] => (s, .ok ())
  | (.text key, v) :: rest =>
    match Setting.ofKey? key with
    | some k => (s.set k v).assignAll rest
    | none => s.assignAll rest
  | _ :: _ => (s, .error .noSuchMember)

/-- What loading leaves: the settings, the result and what was logged. -/
structure Outcome (α : Type) where
  settings : Settings
  result : Except Failure α
  log : List Log.Record := []

/-- The warning about a mode that there is not. -/
def rejection (v : Value) (path : String) : Log.Record :=
  { level := Log.warning
    logger := Log.settingsLogger
    text := "rejecting default_view " ++ v.quoted ++ " from " ++ path }

/-- Applies the entries of a document and notes the path of its file, which is an absolute one. A
mode that there is not is refused before anything is assigned. -/
def apply (s : Settings) (path : String) (entries : List (Scalar × Value)) : Outcome Unit :=
  let accepted : Outcome Unit :=
    let (settings, result) := { s with file := path }.assignAll entries
    { settings, result }
  match Value.field? Setting.defaultView.key entries with
  | none => accepted
  | some v =>
    match DisplayMode.ofValue? v with
    | some _ => accepted
    | none =>
      { settings := s, result := .error (.badDefaultView v.quoted), log := [rejection v path] }

end Settings

end SnapshotViewer
