import ApiShell.Text.Basic

/-! Records of what a run does. -/

namespace ApiShell.Log

/-- How much a record matters. -/
inductive Level where
  | debug
  | info
  | warning
  | error
  deriving DecidableEq, Repr

namespace Level

/-- The rank of a level; a sink takes the records from a rank on. -/
def rank : Level → Nat
  | .debug => 10
  | .info => 20
  | .warning => 30
  | .error => 40

/-- The word for a level. -/
def word : Level → String
  | .debug => "DEBUG"
  | .info => "INFO"
  | .warning => "WARNING"
  | .error => "ERROR"

end Level

/-- The name of the log. -/
def name : String := "declshell"

/-- One record: its level, the part of the program it comes from, and what it says. -/
structure Record where
  level : Level
  source : String
  message : String
  deriving DecidableEq, Repr

/-- A record of a part of the program. -/
def Record.of (level : Level) (part message : String) : Record :=
  { level, source := name ++ "." ++ part, message }

/-- Whether a record comes from the program or from a part of it. -/
def Record.isOwn (r : Record) : Bool :=
  r.source == name || Text.startsWith (name ++ ".") r.source

/-- The record as the console shows it. -/
def Record.consoleLine (r : Record) : String :=
  "[" ++ name ++ "] " ++ r.level.word ++ " " ++ r.message

/-- The record as a log file keeps it. -/
def Record.fileLine (r : Record) : String :=
  r.level.word ++ " " ++ r.source ++ ": " ++ r.message

end ApiShell.Log
