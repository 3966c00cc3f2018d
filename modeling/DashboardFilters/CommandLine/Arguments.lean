import DashboardFilters.Calendar.Reader
import DashboardFilters.Timezone

/-!
The arguments of the program. They are taken from left to right; the value of an option is checked
when the next argument has been recognised, and what is missing is noticed at the end.
-/

namespace DashboardFilters.CommandLine

def releaseNumber : String := "0.4.0"

/-- What is wrong with the arguments, or asked for instead of a run. -/
inductive UsageError where
  | missingRequired
  | invalidValue
  | valueValidation
  | tooManyValues
  | unknownArgument
  | invalidSubcommand
  | repeated
  | help
  | helpOnMissing
  | version
  deriving DecidableEq, Repr

namespace UsageError

/-- Whether the arguments ask for a text instead of being wrong. -/
def isRequest : UsageError → Bool
  | .help | .version => true
  | _ => false

/-- The text that is written instead of a run. -/
def message : UsageError → String
  | .missingRequired => "a required argument is missing"
  | .invalidValue => "an option has no value"
  | .valueValidation => "the value of an option cannot be read"
  | .tooManyValues => "an option that takes no value has one"
  | .unknownArgument => "unknown argument"
  | .invalidSubcommand => "unknown command"
  | .repeated => "an argument is given twice"
  | .help | .helpOnMissing =>
      "usage: dashfilter <compile|render|to-form|operators|version> [OPTIONS]"
  | .version => "dashfilter " ++ releaseNumber

end UsageError

inductive Parameter where
  | dataset
  | filters
  | config
  | environment
  | timezone
  | now
  | pretty
  | strict
  | columnType
  deriving DecidableEq, Repr

/-- A value, checked and read. -/
inductive Given where
  | text (value : String)
  | timezone (value : Timezone)
  | instant (value : Calendar.Instant)
  | set

/-- Paths must not be empty; timezones and instants must be readable. -/
def Parameter.check (parameter : Parameter) (text : String) : Except UsageError Given :=
  match parameter with
  | .dataset | .filters | .config => if text = "" then .error .invalidValue else .ok (.text text)
  | .environment | .columnType => .ok (.text text)
  | .timezone =>
      match Timezone.parse? text with
      | some zone => .ok (.timezone zone)
      | none => .error .valueValidation
  | .now =>
      match Calendar.Instant.parse? text with
      | some instant => .ok (.instant instant)
      | none => .error .valueValidation
  | .pretty | .strict => .ok .set

/-- How an option is written, and whether a value follows it. -/
structure Switch where
  parameter : Parameter
  long : String
  short : Option Char
  takesValue : Bool

def inputSwitches : List Switch :=
  [⟨.dataset, "dataset", some 'd', true⟩, ⟨.filters, "filters", some 'f', true⟩,
    ⟨.config, "config", some 'c', true⟩, ⟨.environment, "env", some 'e', true⟩,
    ⟨.timezone, "timezone", some 't', true⟩]

inductive Command where
  | compile
  | render
  | toForm
  | operators
  | version
  deriving DecidableEq, Repr

namespace Command

def all : List (String × Command) :=
  [("compile", .compile), ("render", .render), ("to-form", .toForm), ("operators", .operators),
    ("version", .version)]

def switches : Command → List Switch
  | .compile => inputSwitches ++ [⟨.now, "now", none, true⟩, ⟨.pretty, "pretty", none, false⟩,
      ⟨.strict, "strict", none, false⟩]
  | .render => inputSwitches
  | .toForm => inputSwitches ++ [⟨.pretty, "pretty", none, false⟩]
  | .operators | .version => []

/-- The argument without a name, if the command has one. -/
def positional? : Command → Option Parameter
  | .operators => some .columnType
  | _ => none

def required : Command → List Parameter
  | .compile | .render | .toForm => [.dataset, .filters]
  | .operators => [.columnType]
  | .version => []

end Command

/-- Arguments as far as they have been taken. -/
structure Taken where
  given : List (Parameter × Given) := []
  /-- The option whose value has not been checked yet, with its value if that has been taken. -/
  pending : Option (Parameter × Option String) := none
  /-- Whether all that follows is taken literally. -/
  literal : Bool := false

namespace Taken

def awaitsValue (taken : Taken) : Option Parameter :=
  match taken.pending with
  | some (parameter, none) => some parameter
  | _ => none

/-- No argument may be given twice. -/
def give (taken : Taken) (parameter : Parameter) (given : Except UsageError Given) :
    Except UsageError Taken := do
  if (taken.given.any fun other => other.1 == parameter) then throw .repeated
  return { taken with given := taken.given ++ [(parameter, ← given)] }

/-- Checks the value of the last option. -/
def settle (taken : Taken) : Except UsageError Taken :=
  match taken.pending with
  | none => .ok taken
  | some (_, none) => .error .invalidValue
  | some (parameter, some text) =>
      { taken with pending := none }.give parameter (parameter.check text)

/-- An option, with the value attached to it if there is one. -/
def option (taken : Taken) (switch : Switch) (attached : Option String) :
    Except UsageError Taken := do
  if switch.takesValue then
    let taken ← taken.settle
    match attached with
    | some text => taken.give switch.parameter (switch.parameter.check text)
    | none => return { taken with pending := some (switch.parameter, none) }
  else if attached.isSome then throw .tooManyValues
  else (← taken.settle).give switch.parameter (.ok .set)

/-- Asks for something else than a run, unless an earlier value is wrong. -/
def divert (taken : Taken) (attached : Bool) (request : UsageError) : Except UsageError Taken := do
  if attached then throw .tooManyValues
  let _ ← taken.settle
  throw request

/-- The name and the attached value of a long option. -/
def splitAttached (text : List Char) : String × Option String :=
  match text.span (· ≠ '=') with
  | (name, '=' :: value) => (String.ofList name, some (String.ofList value))
  | (name, _) => (String.ofList name, none)

/-- A long option, from behind its hyphens. -/
def longOption (taken : Taken) (switches : List Switch) (text : List Char) :
    Except UsageError Taken :=
  let (name, attached) := splitAttached text
  match switches.find? fun switch => switch.long == name with
  | some switch => taken.option switch attached
  | none =>
      if name = "help" then taken.divert attached.isSome .help
      else if name = "version" then taken.divert attached.isSome .version
      else .error .unknownArgument

/-- A short option, from behind its hyphen; its value may follow at once or behind an equals
sign. -/
def shortOption (taken : Taken) (switches : List Switch) (letter : Char) (rest : List Char) :
    Except UsageError Taken :=
  match switches.find? fun switch => switch.short == some letter with
  | some switch =>
      let attached := match rest with
        | [] => none
        | '=' :: value => some (String.ofList value)
        | value => some (String.ofList value)
      taken.option switch attached
  | none =>
      if letter = 'h' then taken.divert false .help
      else if letter = 'V' then taken.divert false .version
      else .error .unknownArgument

/-- An argument that is neither an option nor the value of one. -/
def positional (taken : Taken) (parameter : Option Parameter) (text : String) :
    Except UsageError Taken :=
  match parameter with
  | none => .error .unknownArgument
  | some parameter =>
      if (taken.given.any fun other => other.1 == parameter) then .error .unknownArgument
      else do (← taken.settle).give parameter (parameter.check text)

def next (command : Command) (taken : Taken) (argument : String) : Except UsageError Taken :=
  if taken.literal then taken.positional command.positional? argument
  else
    match argument.toList with
    | ['-', '-'] => .ok { taken with literal := true }
    | '-' :: '-' :: text => taken.longOption command.switches text
    | '-' :: letter :: rest => taken.shortOption command.switches letter rest
    | _ =>
        match taken.awaitsValue with
        | some parameter => .ok { taken with pending := some (parameter, some argument) }
        | none => taken.positional command.positional? argument

end Taken

structure Invocation where
  command : Command
  given : List (Parameter × Given)

namespace Invocation

def text? (invocation : Invocation) (parameter : Parameter) : Option String :=
  match invocation.given.lookup parameter with
  | some (.text value) => some value
  | _ => none

def timezone? (invocation : Invocation) : Option Timezone :=
  match invocation.given.lookup .timezone with
  | some (.timezone value) => some value
  | _ => none

def now? (invocation : Invocation) : Option Calendar.Instant :=
  match invocation.given.lookup .now with
  | some (.instant value) => some value
  | _ => none

def isSet (invocation : Invocation) (parameter : Parameter) : Bool :=
  (invocation.given.lookup parameter).isSome

def ofArguments (command : Command) (arguments : List String) :
    Except UsageError Invocation := do
  let taken ← (← arguments.foldlM (Taken.next command) {}).settle
  if command.required.all fun parameter =>
      taken.given.any fun other => other.1 == parameter then
    return ⟨command, taken.given⟩
  else throw .missingRequired

/-- Whether a name stands for a command, the request for help among them. -/
def isName (name : String) : Bool :=
  name = "help" || (Command.all.lookup name).isSome

/-- Help on a command, or on the program; a command has no commands of its own. -/
def helpOn : List String → UsageError
  | [] => .help
  | [name] => if isName name then .help else .invalidSubcommand
  | _ => .invalidSubcommand

/-- All arguments: a command's name comes first. -/
def parse : List String → Except UsageError Invocation
  | [] => .error .helpOnMissing
  | first :: rest =>
      match Command.all.lookup first with
      | some command => ofArguments command rest
      | none =>
          match first.toList with
          | ['-', '-'] => .error (if rest.isEmpty then .helpOnMissing
              else if isName (rest.headD "") then .unknownArgument
              else .invalidSubcommand)
          | '-' :: '-' :: text => .error (match Taken.longOption {} [] text with
              | .error error => error
              | .ok _ => .unknownArgument)
          | '-' :: letter :: text => .error (match Taken.shortOption {} [] letter text with
              | .error error => error
              | .ok _ => .unknownArgument)
          | _ => .error (if first = "help" then helpOn rest else .invalidSubcommand)

end Invocation

end DashboardFilters.CommandLine
