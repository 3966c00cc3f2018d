import DashboardFilters.Timezone

namespace DashboardFilters

/-- Why a dataset or a configuration cannot be had. -/
inductive LoadError where
  | unreadable (path : String)
  | unsupportedFormat (path : String)
  | duplicateColumn (dataset column : String)
  | invalidTimezone (text : String)
  | invalidConfig (message : String)
  | malformedToml
  | malformedJson
  deriving DecidableEq, Repr

namespace LoadError

def message : LoadError → String
  | .unreadable path => "failed to read file: " ++ path
  | .unsupportedFormat path =>
      "unsupported file format `" ++ path ++ "` (expected .json or .toml)"
  | .duplicateColumn dataset column =>
      "duplicate column `" ++ column ++ "` in dataset `" ++ dataset ++ "`"
  | .invalidTimezone text => Timezone.invalidMessage text
  | .invalidConfig message => "configuration error: " ++ message
  | .malformedToml => "failed to parse TOML"
  | .malformedJson => "failed to parse JSON"

end LoadError

def Timezone.ofText (text : String) : Except LoadError Timezone :=
  match parse? text with
  | some timezone => .ok timezone
  | none => .error (.invalidTimezone text)

end DashboardFilters
