import DashboardFilters.Decimal.Reader
import DashboardFilters.Text.Blank

namespace DashboardFilters

/-- How important a message is. -/
inductive LogLevel where
  | error
  | warn
  | info
  | debug
  | trace
  deriving DecidableEq, Repr

namespace LogLevel

def name : LogLevel → String
  | .error => "ERROR"
  | .warn => "WARN"
  | .info => "INFO"
  | .debug => "DEBUG"
  | .trace => "TRACE"

/-- From the fewest messages to the most. -/
def all : List LogLevel :=
  [.error, .warn, .info, .debug, .trace]

/-- The number of a level, which may have a plus sign in front. -/
def number? (text : String) : Option Nat :=
  match text.toList with
  | '-' :: _ => none
  | characters => (Decimal.integer? characters).map Int.toNat

/-- A level by its name in any case, or by its number from one on. -/
def parse? (text : String) : Option LogLevel :=
  match number? text with
  | some 0 => none
  | some (index + 1) => all[index]?
  | none => all.find? fun level => Text.upperAscii text == level.name

end LogLevel

/-- How messages are written. -/
inductive LogFormat where
  | json
  | pretty
  | compact
  deriving DecidableEq, Repr

namespace LogFormat

def name : LogFormat → String
  | .json => "json"
  | .pretty => "pretty"
  | .compact => "compact"

/-- Any other name stands for JSON. -/
def parse (text : String) : LogFormat :=
  match Text.lowerAscii text with
  | "pretty" => .pretty
  | "compact" => .compact
  | _ => .json

end LogFormat

/-- Which messages are written, and how. -/
structure LogSettings where
  /-- The most detailed level that is written; nothing if logging is off. -/
  level : Option LogLevel
  format : LogFormat
  deriving DecidableEq, Repr

namespace LogSettings

def debugVariable : String := "DASHFILTER_DEBUG"
def levelVariable : String := "DASHFILTER_LOG_LEVEL"
def formatVariable : String := "DASHFILTER_LOG_FORMAT"

/-- The parts of the program whose messages are written. -/
def targets : List String :=
  ["dashfilter", "dashfilter_query", "dashfilter_schema", "dashfilter_cli"]

/-- The words for yes, in any case. -/
def isTruthy (text : String) : Bool :=
  Text.lowerAscii text ∈ ["1", "true", "yes"]

def isDebugEnabled (variableOf : String → Option String) : Bool :=
  (variableOf debugVariable).any isTruthy

/-- The settings in an environment of variables; an unknown level stands for the usual one. -/
def ofVariables (variableOf : String → Option String) : LogSettings :=
  let debug := isDebugEnabled variableOf
  let usual := if debug then LogLevel.debug else LogLevel.warn
  { level := match variableOf levelVariable with
      | some text => some ((LogLevel.parse? (Text.trim text)).getD usual)
      | none => if debug then some usual else none
    format := ((variableOf formatVariable).map LogFormat.parse).getD .json }

/-- The level for each part of the program. -/
def directive? (settings : LogSettings) : Option String :=
  settings.level.map fun level =>
    Text.joinWith "," (targets.map fun target => target ++ "=" ++ Text.lowerAscii level.name)

end LogSettings

end DashboardFilters
