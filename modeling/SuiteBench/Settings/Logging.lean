import SuiteBench.Text.Case

/-!
# Settings.Logging — what is logged and where to

Levels and formats are named in lower case; a variable may name them in any case.
-/

namespace SuiteBench

/-- How much is logged. -/
inductive LogLevel where
  | error | warn | info | debug | trace
  deriving DecidableEq, Repr

namespace LogLevel

/-- Every level, from the least talkative on. -/
def all : List LogLevel := [error, warn, info, debug, trace]

/-- The name of a level. -/
def name : LogLevel → String
  | error => "error"
  | warn => "warn"
  | info => "info"
  | debug => "debug"
  | trace => "trace"

/-- The level with exactly this name. -/
def ofName? (s : String) : Option LogLevel := all.find? fun l => l.name == s

/-- The level that `s` names in any case; `warning` is another name of `warn`. -/
def read? (s : String) : Option LogLevel :=
  let t := Text.lower s
  if t == "warning" then some warn else ofName? t

/-- Whether a message of level `m` is shown when `l` is the highest level shown. -/
def shows (l m : LogLevel) : Bool := m.ctorIdx ≤ l.ctorIdx

end LogLevel

/-- How a log line is laid out. -/
inductive LogFormat where
  | json | text | compact | pretty
  deriving DecidableEq, Repr

namespace LogFormat

/-- Every format. -/
def all : List LogFormat := [json, text, compact, pretty]

/-- The name of a format. -/
def name : LogFormat → String
  | json => "json"
  | text => "text"
  | compact => "compact"
  | pretty => "pretty"

/-- The format with exactly this name. -/
def ofName? (s : String) : Option LogFormat := all.find? fun f => f.name == s

/-- The format that `s` names in any case. -/
def read? (s : String) : Option LogFormat := ofName? (Text.lower s)

end LogFormat

/-- When a new log file is begun. -/
inductive LogRotation where
  | never | hourly | daily
  deriving DecidableEq, Repr

namespace LogRotation

/-- Every rotation. -/
def all : List LogRotation := [never, hourly, daily]

/-- The name of a rotation. -/
def name : LogRotation → String
  | never => "never"
  | hourly => "hourly"
  | daily => "daily"

/-- The rotation with exactly this name. -/
def ofName? (s : String) : Option LogRotation := all.find? fun r => r.name == s

end LogRotation

/-- Where log lines go, each with a level of its own where one is given. -/
inductive LogTarget where
  | console (level : Option LogLevel)
  | file (path : String) (level : Option LogLevel) (rotation : LogRotation)
  deriving DecidableEq, Repr

/-- The settings of the log. -/
structure LogSettings where
  level : LogLevel
  format : LogFormat
  targets : List LogTarget
  includeLocation : Bool
  deriving DecidableEq, Repr

theorem LogLevel.ofName?_name (l : LogLevel) : ofName? l.name = some l := by cases l <;> decide

theorem LogFormat.ofName?_name (f : LogFormat) : ofName? f.name = some f := by cases f <;> decide

theorem LogRotation.ofName?_name (r : LogRotation) : ofName? r.name = some r := by
  cases r <;> decide

end SuiteBench
