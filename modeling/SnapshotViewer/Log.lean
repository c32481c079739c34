import SnapshotViewer.Failure
import SnapshotViewer.Value.Text

/-!
# Log records

A record has a level, the name of its logger and a text. A log file holds the lines of the records
at or above the threshold that the settings name.
-/

namespace SnapshotViewer.Log

/-- The level of a record; greater is more severe. -/
abbrev Level := Int

/-- The level of details. -/
def debug : Level := 10

/-- The level of news. -/
def info : Level := 20

/-- The level of warnings. -/
def warning : Level := 30

/-- The level of errors. -/
def error : Level := 40

/-- The level of failures that end the program. -/
def critical : Level := 50

/-- One entry of the log. The root logger has the empty name. -/
structure Record where
  level : Level
  logger : String
  text : String
deriving DecidableEq

/-- How a level is written. -/
def levelName (level : Level) : String :=
  if level = critical then "CRITICAL"
  else if level = error then "ERROR"
  else if level = warning then "WARNING"
  else if level = info then "INFO"
  else if level = debug then "DEBUG"
  else if level = 0 then "NOTSET"
  else "Level " ++ Numeral.write level

/-- How the name of a logger is written. -/
def loggerName (name : String) : String := if name.isEmpty then "root" else name

/-- A record as the level, the logger and the text. -/
def Record.summary (r : Record) : String :=
  levelName r.level ++ " " ++ loggerName r.logger ++ ": " ++ r.text

/-- A record as a line of a log file, without the time. -/
def Record.line (r : Record) : String :=
  "[" ++ levelName r.level ++ "] " ++ loggerName r.logger ++ ": " ++ r.text

/-- A record is written when its level is positive and reaches the threshold. -/
def Record.isWritten (threshold : Level) (r : Record) : Bool := 0 < r.level && threshold ≤ r.level

/-- The content of a log file. -/
def file (threshold : Level) (records : List Record) : String :=
  String.join ((records.filter (·.isWritten threshold)).map fun r => r.line ++ "\n")

/-- The capital of a letter, as far as the names of levels need it: two letters beyond the first 128
have capitals among them, and two ligatures are written as two capitals. -/
def capital (c : Char) : List Char :=
  if c = 'ı' then ['I']
  else if c = 'ſ' then ['S']
  else if c = 'ﬅ' ∨ c = 'ﬆ' then ['S', 'T']
  else [c.toUpper]

/-- What a name of a level resolves to: a threshold, a text that is not one, or something else. -/
inductive Resolved where
  | threshold (level : Level)
  | text (s : String)
  | other

/-- The names that resolve to something. -/
def names : List (String × Resolved) :=
  [("CRITICAL", .threshold critical), ("FATAL", .threshold critical), ("ERROR", .threshold error),
    ("WARNING", .threshold warning), ("WARN", .threshold warning), ("INFO", .threshold info),
    ("DEBUG", .threshold debug), ("NOTSET", .threshold 0),
    ("BASIC_FORMAT", .text "%(levelname)s:%(name)s:%(message)s"), ("_STYLES", .other)]

/-- The threshold that a setting names, in capitals or small letters. What names nothing stands for
`info`. -/
def thresholdOf (setting : Value) : Except Failure Level :=
  let name := String.ofList (setting.plain.toList.flatMap capital)
  match (names.find? fun (n, _) => n == name).map Prod.snd with
  | some (.threshold level) => .ok level
  | some (.text s) => .error (.unknownLevel s)
  | some .other => .error .wrongType
  | none => .ok info

/-- The threshold before the settings have been applied. -/
def initialThreshold : Level := warning

/-- The logger of the settings. -/
def settingsLogger : String := "Ideal_Graph.config"

/-- The text of an error that nothing caught, without one line end at its end. -/
def uncaughtText (kind text : String) : String :=
  let whole := if text.isEmpty then kind else kind ++ ": " ++ text
  if whole.endsWith "\n" then (whole.dropEnd 1).toString else whole

/-- The record of an error that nothing caught. -/
def uncaught (kind text : String) : Record :=
  { level := error
    logger := settingsLogger
    text := "Uncaught exception\n" ++ uncaughtText kind text }

end SnapshotViewer.Log
