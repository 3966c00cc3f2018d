import DashboardFilters.LoadError

namespace DashboardFilters

inductive FailureKind where
  | illegalType
  | illegalArgument
  | columnNotFound
  | evaluatorFailure
  | serialization
  | deserialization
  | configuration
  | internal
  deriving DecidableEq, Repr

namespace FailureKind

def all : List FailureKind :=
  [.illegalType, .illegalArgument, .columnNotFound, .evaluatorFailure, .serialization,
    .deserialization, .configuration, .internal]

def code : FailureKind → String
  | .illegalType => "D1001"
  | .illegalArgument => "D1002"
  | .columnNotFound => "D1003"
  | .evaluatorFailure => "D2001"
  | .serialization => "D6002"
  | .deserialization => "D6003"
  | .configuration => "D7001"
  | .internal => "D9001"

/-- What failures of the kind have in common. -/
def description : FailureKind → String
  | .illegalType => "Illegal column type"
  | .illegalArgument => "Illegal argument"
  | .columnNotFound => "Column not found"
  | .evaluatorFailure => "Expression evaluation failed"
  | .serialization => "Serialization error"
  | .deserialization => "Deserialization error"
  | .configuration => "Invalid configuration"
  | .internal => "Internal error"

end FailureKind

/-- What went wrong, where, and what may help. -/
structure Failure where
  kind : FailureKind
  message : String
  /-- What was going on. -/
  operation : Option String := none
  column : Option String := none
  operator : Option String := none
  suggestions : List String := []
  help : Option String := none
  /-- The text of the error behind this one. -/
  cause : Option String := none
  deriving DecidableEq, Repr

namespace Failure

/-- The failure with what was being done. -/
def withOperation (failure : Failure) (operation : String) : Failure :=
  { failure with operation := some operation }

def withColumn (failure : Failure) (column : String) : Failure :=
  { failure with column := some column }

def withOperator (failure : Failure) (operator : String) : Failure :=
  { failure with operator := some operator }

def withSuggestion (failure : Failure) (suggestion : String) : Failure :=
  { failure with suggestions := failure.suggestions ++ [suggestion] }

def withHelp (failure : Failure) (help : String) : Failure :=
  { failure with help := some help }

/-- The failure with the message that led to it. -/
def withCause (failure : Failure) (cause : String) : Failure :=
  { failure with cause := some cause }

/-- A column whose type has no operators. -/
def illegalType (type : String) : Failure where
  kind := .illegalType
  message := "Column type `" ++ type ++ "` cannot be filtered"
  suggestions := ["Declare the column with a supported type (string, int, date, ...)"]

/-- A filter that makes no sense. -/
def illegalArgument (message : String) : Failure where
  kind := .illegalArgument
  message

/-- A literal does not stand for the value it should. -/
def malformedLiteral (expected literal : String) : Failure :=
  illegalArgument ("Expected " ++ expected ++ " but found `" ++ literal ++ "`")

/-- A filter on a column that the dataset does not have. -/
def columnNotFound (column : String) : Failure where
  kind := .columnNotFound
  message := "Column `" ++ column ++ "` is not part of the dataset"
  column := some column
  suggestions := ["Remove the filter or add the column to the dataset definition"]

/-- An expression that has no value. -/
def evaluatorFailure (expression message : String) : Failure where
  kind := .evaluatorFailure
  message := "Failed to evaluate `" ++ expression ++ "`: " ++ message
  help := some "The value is withheld; fix the expression before submitting"

/-- Something that cannot be written. -/
def serialization (message : String) : Failure where
  kind := .serialization
  message

/-- Something that cannot be read. -/
def deserialization (message : String) : Failure where
  kind := .deserialization
  message := "Failed to read stored filters: " ++ message
  suggestions := ["Reset the stored filters for this dash"]

/-- A configuration that cannot be used. -/
def configuration (message : String) : Failure where
  kind := .configuration
  message

/-- Something that should never happen. -/
def internal (message : String) : Failure where
  kind := .internal
  message := "Internal error: " ++ message

/-- What could not be loaded makes the configuration invalid. -/
def ofLoadError (error : LoadError) : Failure :=
  (configuration error.message).withCause error.message

def isColumnNotFound (failure : Failure) : Bool :=
  failure.kind == .columnNotFound

/-- Only a failed evaluation leaves the rest of the filters as good as they were. -/
def isRecoverable (failure : Failure) : Bool :=
  failure.kind == .evaluatorFailure

/-- Code and message on one line. -/
def text (failure : Failure) : String :=
  "[" ++ failure.kind.code ++ "] " ++ failure.message

/-- A line of the full text, if there is something to tell. -/
def contextLine (label : String) : Option String → String
  | some text => "  → " ++ label ++ ": " ++ text ++ "\n"
  | none => ""

def suggestionLines (suggestions : List String) : String :=
  if suggestions.isEmpty then ""
  else
    let lines := (suggestions.zipIdx 1).map fun (suggestion, number) =>
      "  " ++ toString number ++ ". " ++ suggestion ++ "\n"
    "\nSuggestions:\n" ++ String.join lines

def fullText (failure : Failure) : String :=
  "Error [" ++ failure.kind.code ++ "]: " ++ failure.message ++ "\n" ++
    contextLine "While" failure.operation ++ contextLine "Column" failure.column ++
    contextLine "Operator" failure.operator ++ suggestionLines failure.suggestions ++
    match failure.help with
    | some help => "\nHelp: " ++ help ++ "\n"
    | none => ""

end Failure

end DashboardFilters
