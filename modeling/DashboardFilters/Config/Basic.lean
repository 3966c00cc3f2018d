import DashboardFilters.Calendar.Writer
import DashboardFilters.LoadError
import DashboardFilters.Text.Blank

namespace DashboardFilters

/-- The patterns by which temporal values are shown. -/
structure Formats where
  date : String := "%d.%m.%Y"
  time : String := "%H:%M:%S"
  dateTime : String := "%d.%m.%Y %H:%M:%S"
  deriving DecidableEq, Repr

structure Display where
  timezone : Timezone := .utc
  formats : Formats := {}
  deriving DecidableEq, Repr

namespace Config

/-- What an environment changes about the display. -/
structure DisplayOverride where
  timezone : Option Timezone := none
  date : Option String := none
  time : Option String := none
  dateTime : Option String := none
  deriving DecidableEq, Repr

/-- The namespace of session filters, if there is one. -/
structure Session where
  scope : Option String := none
  deriving DecidableEq, Repr

/-- What an environment changes. -/
structure Override where
  display : Option DisplayOverride := none
  session : Option Session := none
  deriving DecidableEq, Repr

end Config

/-- A configuration: what holds everywhere, and what else in single environments. -/
structure Config where
  display : Display := {}
  session : Config.Session := {}
  environments : List (String × Config.Override) := []
  deriving DecidableEq, Repr

namespace Config

open Calendar (Part Shown Instant)

/-- A pattern of the display, its name in messages, and a value that it has to be able to show. -/
structure PatternCheck where
  kind : String
  pattern : String
  sample : Shown

/-- The patterns of a display, each with the first moment of 1970. -/
def patternChecks (formats : Formats) : List PatternCheck :=
  let moment := Instant.epoch.localTime
  [⟨"date", formats.date, moment.date.shown⟩, ⟨"time", formats.time, moment.time.shown⟩,
    ⟨"datetime", formats.dateTime, Instant.epoch.shown⟩]

def PatternCheck.fault (check : PatternCheck) (complaint : String) : LoadError :=
  .invalidConfig ("display." ++ check.kind ++ "_format " ++ complaint)

/-- The pattern with its setting, as complaints name it. -/
def PatternCheck.quoted (check : PatternCheck) : String :=
  "`" ++ check.pattern ++ "`"

/-- A pattern has to be one, and must not be blank. -/
def PatternCheck.wellFormed (check : PatternCheck) : Except LoadError Unit :=
  if Text.trim check.pattern = "" then .error (check.fault "must not be empty")
  else if (Part.ofText? check.pattern).isNone then
    .error (check.fault (check.quoted ++ " is not a valid strftime pattern"))
  else .ok ()

/-- A pattern must not ask for what values of its kind do not have. -/
def PatternCheck.showable (check : PatternCheck) : Except LoadError Unit :=
  if (check.sample.formatBy? check.pattern).isNone then
    .error (check.fault
      (check.quoted ++ " uses fields a " ++ check.kind ++ " value does not have"))
  else .ok ()

/-- The namespace is one segment of a path. -/
def checkNamespace (name : Option String) : Except LoadError Unit :=
  match name with
  | some text =>
      if text = "" || text.toList.contains '.' then
        .error (.invalidConfig "session.namespace must be a non-empty key segment without dots")
      else .ok ()
  | none => .ok ()

/-- The form of all patterns is checked first, then their fields, then the namespace. -/
def validate (config : Config) : Except LoadError Unit := do
  let checks := patternChecks config.display.formats
  checks.forM PatternCheck.wellFormed
  checks.forM PatternCheck.showable
  checkNamespace config.session.scope

/-- What is overridden, and the rest as before. -/
def DisplayOverride.apply (override : DisplayOverride) (display : Display) : Display where
  timezone := override.timezone.getD display.timezone
  formats :=
    { date := override.date.getD display.formats.date
      time := override.time.getD display.formats.time
      dateTime := override.dateTime.getD display.formats.dateTime }

def Override.apply (override : Override) (config : Config) : Config :=
  { config with
    display := match override.display with
      | some change => change.apply config.display
      | none => config.display
    session := match override.session with
      | some ⟨some name⟩ => ⟨some name⟩
      | _ => config.session }

/-- The configuration in an environment, which it then no longer mentions. What results is checked
again, whether or not the environment is known. -/
def inEnvironment (config : Config) (environment : String) : Except LoadError Config := do
  let changed := match config.environments.lookup environment with
    | some override =>
        override.apply { config with
          environments := config.environments.filter fun entry => entry.1 ≠ environment }
    | none => config
  changed.validate
  return changed

end Config

end DashboardFilters
