import DashboardFilters.CommandLine.Arguments
import DashboardFilters.CommandLine.Style
import DashboardFilters.Compile
import DashboardFilters.Config.Reader
import DashboardFilters.Form
import DashboardFilters.Summary
import DashboardFilters.Tree.Persisted

namespace DashboardFilters.CommandLine

/-- What a run may look at. -/
structure Surroundings where
  files : String → Option String
  variableOf : String → Option String
  now : Calendar.Instant

structure Outcome where
  status : Nat := 0
  output : String := ""
  errors : String := ""
  deriving DecidableEq, Repr

inductive Stop where
  | unreadable
  | unreadableConfig (path : String)
  | loading (error : LoadError)
  | filters (error : Reading.Error)
  | engine (failure : Failure)
  | validation (message : String)

def missingFile : String :=
  "No such file or directory (os error 2)"

namespace Stop

def message : Stop → String
  | .unreadable => "IO error: " ++ missingFile
  | .unreadableConfig path => "Configuration error: " ++ path ++ ": " ++ missingFile
  | .loading error => error.message
  | .filters error => "Invalid filters: " ++ error.message
  | .engine failure => failure.fullText
  | .validation message => "Validation error: " ++ message

/-- The outcome of a run that stops, behind the warnings it gave before. -/
def outcome (stop : Stop) (warnings : String := "") : Outcome where
  status := 1
  errors := warnings ++ errorLine stop.message

end Stop

structure Inputs where
  display : Display
  dataset : Dataset
  block : Block Value

/-- The configuration file that is looked for when none is named. -/
def defaultConfigPath : String := "dashfilter.toml"

def configAt (surroundings : Surroundings) (environment : Option String) (content : String) :
    Except LoadError Config := do
  let config ← Config.ofText surroundings.variableOf content
  match environment with
  | some name => config.inEnvironment name
  | none => return config

/-- The configuration that the arguments name, or the one that lies at hand, or the usual one. -/
def loadConfig (surroundings : Surroundings) (path environment : Option String) :
    Except Stop Config :=
  match path with
  | some path =>
      match surroundings.files path with
      | none => .error (.unreadableConfig path)
      | some content => (configAt surroundings environment content).mapError .loading
  | none =>
      match surroundings.files defaultConfigPath with
      | none => .ok {}
      | some content => (configAt surroundings environment content).mapError .loading

def readFile (surroundings : Surroundings) (path : String) : Except Stop String :=
  match surroundings.files path with
  | some content => .ok content
  | none => .error .unreadable

/-- Names the environment when the arguments do not. -/
def environmentVariable : String := "DASHFILTER_ENV"

/-- The environment that the arguments name, or else the variable. -/
def environmentOf (surroundings : Surroundings) (invocation : Invocation) : Option String :=
  (invocation.text? .environment).or (surroundings.variableOf environmentVariable)

/-- The inputs, in the order in which what is wrong with them counts. -/
def loadInputs (surroundings : Surroundings) (invocation : Invocation) : Except Stop Inputs := do
  let config ← loadConfig surroundings (invocation.text? .config)
    (environmentOf surroundings invocation)
  let display := match invocation.timezone? with
    | some timezone => { config.display with timezone }
    | none => config.display
  let path := (invocation.text? .dataset).getD ""
  let content ← readFile surroundings path
  let dataset ← (Dataset.ofContent content path).mapError .loading
  let filters ← readFile surroundings ((invocation.text? .filters).getD "")
  let block ← (Json.Scan.run Block.read filters).mapError .filters
  return { display, dataset, block }

/-- A document on one line or on several. -/
def documentLine (invocation : Invocation) (document : Json) : String :=
  line (if invocation.isSet .pretty then document.pretty else document.compact)

/-- The expression is written if nothing is withheld, or if that is allowed. -/
def compileOutcome (surroundings : Surroundings) (invocation : Invocation) (inputs : Inputs) :
    Outcome :=
  let context : Context :=
    { timezone := inputs.display.timezone
      now := invocation.now?.getD surroundings.now }
  let compiled := inputs.block.compile inputs.dataset context
  match compiled.result with
  | .error failure => (Stop.engine failure).outcome
  | .ok expression =>
      let warnings := String.join (compiled.notices.map fun notice => warningLine notice.text)
      let withheld := expression.withheldColumns
      let output := documentLine invocation expression.toJson
      if withheld.isEmpty then { output, errors := warnings }
      else
        let message := "Values withheld for: " ++ Text.joinWith ", " withheld
        if invocation.isSet .strict then (Stop.validation message).outcome warnings
        else { output, errors := warnings ++ warningLine message }

/-- Writes the summary, or remarks that there is none. -/
def renderOutcome (inputs : Inputs) : Outcome :=
  match inputs.block.summary inputs.dataset inputs.display with
  | .error failure => (Stop.engine failure).outcome
  | .ok (some summary) => { output := line summary }
  | .ok none => { errors := infoLine "No visible filters" }

def toFormOutcome (invocation : Invocation) (inputs : Inputs) : Outcome :=
  match inputs.block.toForm inputs.dataset inputs.display.timezone with
  | .error failure => (Stop.engine failure).outcome
  | .ok form => { output := documentLine invocation (form.toJson FormValue.toJson) }

def categoryName : Option Category → String
  | some .stringLike => "string-like"
  | some .numeric => "numeric"
  | some .temporal => "temporal"
  | some .boolean => "boolean"
  | none => "unsupported"

/-- The name of an operator, filled up to a column, and its title. -/
def operatorLine (operator : Operator) : String :=
  listItem (String.ofList (Text.padEnd 14 ' ' operator.wire.toList) ++ " " ++ operator.title)

def operatorsOutcome (name : String) : Outcome :=
  let type := ColumnType.parse name
  match type.operators with
  | .error failure => (Stop.engine failure).outcome
  | .ok operators =>
      { output := header ("Operators for " ++ type.name ++ " (" ++
            categoryName type.category? ++ ")") ++
          String.join (operators.map operatorLine) }

def versionOutcome : Outcome where
  output := header "dashfilter" ++ keyValue "Version" releaseNumber ++
    keyValue "Binary" "dashfilter-cli" ++ keyValue "Build" "debug" ++ line "" ++
    part "Components" ++ keyValue "dashfilter-schema" releaseNumber ++
    keyValue "dashfilter-query" releaseNumber ++ line "" ++
    line (dimmed "Logging: set DASHFILTER_DEBUG=1 or DASHFILTER_LOG_LEVEL")

def withInputs (surroundings : Surroundings) (invocation : Invocation)
    (body : Inputs → Outcome) : Outcome :=
  match loadInputs surroundings invocation with
  | .error stop => stop.outcome
  | .ok inputs => body inputs

def Invocation.run (surroundings : Surroundings) (invocation : Invocation) : Outcome :=
  match invocation.command with
  | .compile => withInputs surroundings invocation (compileOutcome surroundings invocation)
  | .render => withInputs surroundings invocation renderOutcome
  | .toForm => withInputs surroundings invocation (toFormOutcome invocation)
  | .operators => operatorsOutcome ((invocation.text? .columnType).getD "")
  | .version => versionOutcome

def run (surroundings : Surroundings) (arguments : List String) : Except UsageError Outcome :=
  (Invocation.parse arguments).map (Invocation.run surroundings)

end DashboardFilters.CommandLine
