import SnapshotViewer.Settings.Basic
import SnapshotViewer.Value.Json.Parser
import SnapshotViewer.Yaml.Document

/-!
# Settings files

The ending of its name decides the format of a settings file. A document has to be a map; in YAML,
whatever counts as false stands for the map without entries. How text is read in each format is a
parameter (`Formats`), of which all that is used is that a document has one value for each key.
-/

namespace SnapshotViewer

/-- Files by their paths, as text. Every path is absolute and has no part that stands for another
directory, so that a file has one path only. -/
abbrev Files := List (String × String)

/-- Turns all line ends into line feeds. -/
def unifyLines : List Char → List Char
  | '\r' :: '\n' :: rest => '\n' :: unifyLines rest
  | '\r' :: rest => '\n' :: unifyLines rest
  | c :: rest => c :: unifyLines rest
  | [] => []

/-- The last part of a path. -/
def baseName (path : String) : String :=
  String.ofList (path.toList.reverse.takeWhile (· != '/')).reverse

/-- How text is read in the two formats of settings files. A map that is read has one value for each
key. -/
structure Formats where
  json : String → Option Value
  yaml : String → Except YamlError Value
  json_keysDiffer {text : String} {v : Value} (h : json text = some v) : v.KeysDiffer
  yaml_keysDiffer {text : String} {v : Value} (h : yaml text = .ok v) : v.KeysDiffer

/-- The formats with the readers of this library. -/
def Formats.standard : Formats where
  json := Json.read
  yaml := Yaml.read
  json_keysDiffer := Json.keysDiffer_read
  yaml_keysDiffer := Yaml.keysDiffer_read

namespace Settings

/-- The name of a YAML file. -/
def isYaml (path : String) : Bool := path.endsWith ".yaml" || path.endsWith ".yml"

/-- The document of a file. -/
def parse (formats : Formats) (path text : String) : Except Failure Value :=
  let text := String.ofList (unifyLines text.toList)
  if isYaml path then
    match formats.yaml text with
    | .ok v => .ok (if v.isTrue then v else .map [])
    | .error e => .error (.badYaml e)
  else
    match formats.json text with
    | some v => .ok v
    | none => .error .badJson

/-- The entries of the document of a file. -/
def readFile (formats : Formats) (files : Files) (path : String) :
    Except Failure (List (Scalar × Value)) :=
  match files.find? fun f => f.1 == path with
  | none => .error .noSuchFile
  | some (_, text) => do (← parse formats path text).expectMap (.notAMapping path)

/-- Loads a file. -/
def load (s : Settings) (files : Files) (path : String) (formats : Formats := .standard) :
    Outcome Unit :=
  match readFile formats files path with
  | .error e => { settings := s, result := .error e }
  | .ok entries => s.apply path entries

/-- Loads a file, by default the one that was loaded last, and returns its document. -/
def reload (s : Settings) (files : Files) (path? : Option String)
    (formats : Formats := .standard) : Outcome Value :=
  let path := path?.getD s.file
  let loaded := s.load files path formats
  { settings := loaded.settings
    log := loaded.log
    result := do
      loaded.result
      return .map (← readFile formats files path) }

/-! ## One value for each key -/

variable {formats : Formats} {files : Files} {path text : String} {entries : List (Scalar × Value)}

theorem keysDiffer_parse {v : Value} (h : parse formats path text = .ok v) : v.KeysDiffer := by
  unfold parse at h
  dsimp only at h
  split at h
  · split at h
    · rename_i x hx
      cases h
      split
      · exact formats.yaml_keysDiffer hx
      · exact Value.keysDiffer_nil
    · cases h
  · split at h
    · rename_i x hx
      cases h
      exact formats.json_keysDiffer hx
    · cases h

/-- A settings file has one value for each key. -/
theorem distinct_readFile (h : readFile formats files path = .ok entries) :
    Value.Distinct entries := by
  unfold readFile at h
  split at h
  · cases h
  · rename_i text _
    cases hparse : parse formats path text with
    | error e =>
      rw [hparse] at h
      cases h
    | ok v =>
      rw [hparse] at h
      cases v with
      | map es =>
        cases h
        exact keysDiffer_parse hparse _ rfl
      | _ => cases h

end Settings

end SnapshotViewer
