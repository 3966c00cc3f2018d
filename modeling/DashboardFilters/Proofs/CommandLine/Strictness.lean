import DashboardFilters.CommandLine.Run
import DashboardFilters.Proofs.CommandLine.Arguments
import DashboardFilters.Proofs.Compile.Isolation
import DashboardFilters.Proofs.Values

namespace DashboardFilters

open Outcome (bind_eq_ok_iff map_eq_ok_iff)

/-- A tree that is scanned from a text holds no withheld value. -/
theorem Block.unwithheld_of_scan {text : String} {block : Block Value}
    (known : Json.Scan.run Block.read text = .ok block) : block.Unwithheld := by
  have values : Json.Scan.logic.Yields (fun value => value.containsWithheld = false)
      (Value.read : Json.Scan Value) :=
    Value.yields_decode Json.Scan.logic fun json _ => by
      rw [Value.decode_eq_ofJson, Value.containsWithheld_ofJson]
  have sound : Json.Scan.Yields _ _ := yields_sound (by rfl) Json.Scan.logic values
  intro filter member value operand
  exact (sound.run known filter member).operands value operand

/-- Whether every expression of a tree is a JSON document, blanks around it left out. -/
def Block.Literal (block : Block Value) : Prop :=
  ∀ filter ∈ block.allFilters, ∀ expression, .manual expression ∈ filter.predicate.operands →
    ∃ document, Json.parse (Text.trim expression) = .ok document

section

variable {context : Context} (literals : context.evaluate = .literals)

include literals

/-- The value of a document that is an expression is not withheld. -/
theorem Context.unwithheld_of_literals : context.Unwithheld := by
  intro expression value known
  rw [literals, Evaluator.literals] at known
  split at known
  next document _ =>
    cases known
    exact Value.containsWithheld_ofJson document
  next => cases known

/-- An expression does not fail when it is a document. -/
theorem Operand.failure?_manual_eq_none_iff {expression : String} :
    Operand.failure? context (.manual expression) = none ↔
      ∃ document, Json.parse (Text.trim expression) = .ok document := by
  rw [failure?, literals, Evaluator.literals]
  cases Json.parse (Text.trim expression) <;> simp

/-- No expression of a tree fails when all of them are documents. -/
theorem Block.failures_eq_nil_iff {block : Block Value} :
    (∀ filter ∈ block.allFilters, filter.failures context = []) ↔ block.Literal := by
  apply forall₂_congr
  intro filter _
  rw [Filter.failures, List.filterMap_eq_nil_iff]
  constructor
  · intro none expression member
    exact (Operand.failure?_manual_eq_none_iff literals).mp (none _ member)
  · intro documents operand member
    cases operand with
    | value picked => rfl
    | manual expression =>
        exact (Operand.failure?_manual_eq_none_iff literals).mpr (documents expression member)

end

namespace CommandLine

/-- How a strict run compares with the same run that is not strict. -/
structure Outcome.StrictlyOf (strict plain : Outcome) (allowed : Prop) : Prop where
  succeeds : strict.status = 0 ↔ plain.status = 0 ∧ allowed
  same : strict.status = 0 → strict.output = plain.output
  silent : strict.status ≠ 0 → strict.output = ""

variable {surroundings : Surroundings} {invocation : Invocation}

/-- The tree among the inputs holds no withheld value. -/
theorem unwithheld_of_loadInputs {inputs : Inputs}
    (loaded : loadInputs surroundings invocation = .ok inputs) : inputs.block.Unwithheld := by
  obtain ⟨config, -, loaded⟩ := bind_eq_ok_iff.mp loaded
  obtain ⟨content, -, loaded⟩ := bind_eq_ok_iff.mp loaded
  obtain ⟨dataset, -, loaded⟩ := bind_eq_ok_iff.mp loaded
  obtain ⟨filters, -, loaded⟩ := bind_eq_ok_iff.mp loaded
  obtain ⟨block, read, ⟨⟩⟩ := bind_eq_ok_iff.mp loaded
  cases scanned : Json.Scan.run Block.read filters with
  | error error =>
      rw [scanned] at read
      cases read
  | ok block =>
      rw [scanned] at read
      cases read
      exact Block.unwithheld_of_scan scanned

/-- A strict run has the inputs of the other run, at any time. -/
theorem loadInputs_strictly (clock : Calendar.Instant) :
    loadInputs { surroundings with now := clock } invocation.strictly =
      loadInputs surroundings invocation :=
  rfl

/-- On its inputs a strict run succeeds when the other one does and all expressions are
documents. -/
theorem compileOutcome_strictly {moment : Calendar.Instant} {inputs : Inputs}
    (lenient : invocation.isSet .strict = false) (given : invocation.now? = some moment)
    (whole : inputs.block.Unwithheld) (clock : Calendar.Instant) :
    (compileOutcome { surroundings with now := clock } invocation.strictly inputs).StrictlyOf
      (compileOutcome surroundings invocation inputs) inputs.block.Literal := by
  have now : invocation.strictly.now? = some moment := given
  have line : documentLine invocation.strictly = documentLine invocation := rfl
  have strict : invocation.strictly.isSet .strict = true := rfl
  unfold compileOutcome
  dsimp only
  -- The moment that is given takes the place of either clock, so that both runs compile alike.
  rw [now, given, Option.getD_some, Option.getD_some, strict, lenient, line]
  generalize known : ({ timezone := inputs.display.timezone, now := moment } : Context) = context
  have literals : context.evaluate = .literals := by rw [← known]
  cases compiles : (inputs.block.compile inputs.dataset context).result with
  | error failure => exact ⟨⟨nofun, nofun⟩, nofun, fun _ => rfl⟩
  | ok expression =>
      have literal := (Block.withheldColumns_eq_nil_iff whole
        (Context.unwithheld_of_literals literals) compiles).trans
          (Block.failures_eq_nil_iff literals)
      dsimp only
      cases withheld : expression.withheldColumns with
      | nil =>
          have allowed : inputs.block.Literal := literal.mp withheld
          exact ⟨iff_of_true rfl ⟨rfl, allowed⟩, fun _ => rfl, fun failed => absurd rfl failed⟩
      | cons column rest =>
          have refused : ¬ inputs.block.Literal := fun allowed => by
            rw [literal.mpr allowed] at withheld
            cases withheld
          exact ⟨iff_of_false nofun fun both => refused both.2, nofun, fun _ => rfl⟩

/-- A run that is not strict writes the document of the expression when it succeeds. -/
theorem exists_expression_of_status {moment : Calendar.Instant} {inputs : Inputs}
    (lenient : invocation.isSet .strict = false) (given : invocation.now? = some moment)
    (succeeds : (compileOutcome surroundings invocation inputs).status = 0) :
    ∃ expression,
      (inputs.block.compile inputs.dataset
        { timezone := inputs.display.timezone, now := moment }).result = .ok expression ∧
      (compileOutcome surroundings invocation inputs).output =
        documentLine invocation expression.toJson := by
  revert succeeds
  unfold compileOutcome
  rw [given, Option.getD_some, lenient]
  dsimp only
  split
  next => exact nofun
  next expression compiled =>
    intro _
    refine ⟨expression, compiled, ?_⟩
    split <;> rfl

/-- A strict run of the compile command with a given present moment, which may be at any time,
succeeds exactly when the same run that is not strict does and all expressions of the tree are JSON
documents, blanks around them left out. When it succeeds it writes the same as the other run, which
is the document of the expression that the tree compiles to, and when it fails it writes nothing but
errors. -/
theorem run_strictly {arguments : List String} {moment : Calendar.Instant}
    (parsed : Invocation.parse ("compile" :: arguments) = .ok invocation)
    (lenient : invocation.isSet .strict = false) (given : invocation.now? = some moment)
    (clock : Calendar.Instant) :
    ∃ plain strict, run surroundings ("compile" :: arguments) = .ok plain ∧
      run { surroundings with now := clock } ("compile" :: "--strict" :: arguments) = .ok strict ∧
      strict.StrictlyOf plain
        (∃ inputs, loadInputs surroundings invocation = .ok inputs ∧ inputs.block.Literal) ∧
      (plain.status = 0 → ∃ inputs expression,
        loadInputs surroundings invocation = .ok inputs ∧
        (inputs.block.compile inputs.dataset
          { timezone := inputs.display.timezone, now := moment }).result = .ok expression ∧
        plain.output = documentLine invocation expression.toJson) := by
  have command := Invocation.command_of_parse parsed
  refine ⟨_, _, map_eq_ok_iff.mpr ⟨_, parsed, rfl⟩,
    map_eq_ok_iff.mpr ⟨_, Invocation.parse_strictly parsed lenient, rfl⟩, ?_⟩
  have behind : invocation.strictly.command = .compile := command
  simp only [Invocation.run, command, behind, withInputs, loadInputs_strictly clock]
  cases loaded : loadInputs surroundings invocation with
  | error stop =>
      have stopped : stop.outcome.status ≠ 0 := nofun
      exact ⟨⟨iff_of_false stopped fun both => stopped both.1, fun done => absurd done stopped,
        fun _ => rfl⟩, fun done => absurd done stopped⟩
  | ok inputs =>
      have whole := unwithheld_of_loadInputs loaded
      obtain ⟨succeeds, same, silent⟩ := compileOutcome_strictly lenient given whole clock
      refine ⟨⟨succeeds.trans (and_congr_right fun _ => ?_), same, silent⟩, fun done => ?_⟩
      · constructor
        · intro allowed
          exact ⟨inputs, rfl, allowed⟩
        · rintro ⟨_, ⟨⟩, allowed⟩
          exact allowed
      · obtain ⟨expression, compiled, written⟩ := exists_expression_of_status lenient given done
        exact ⟨inputs, expression, rfl, compiled, written⟩

end CommandLine

namespace Sample

open CommandLine

/-- A dataset with one column of numbers. -/
def countsText : String :=
  "\x7b\"name\":\"counts\",\"columns\":[\x7b\"name\":\"id\",\"type\":\"int\"\x7d]\x7d"

/-- A lower bound that is a document between blanks, and an upper one that is none. -/
def boundsText : String :=
  "\x7b\"id\":\"root\",\"filters\":[" ++
    "\x7b\"columnName\":\"id\",\"op\":\"$gt\",\"value\":\" 40 \"," ++
      "\"extra\":\x7b\"isManual\":true\x7d\x7d," ++
    "\x7b\"columnName\":\"id\",\"op\":\"$lt\",\"value\":\"fifty\"," ++
      "\"extra\":\x7b\"isManual\":true\x7d\x7d]\x7d"

/-- Both files, at the first midnight of 1970. -/
def desk : Surroundings where
  files path := List.lookup path [("d.json", countsText), ("f.json", boundsText)]
  variableOf _ := none
  now := .epoch

/-- Arguments that name both files and a moment. -/
def noonArguments : List String :=
  ["-d", "d.json", "-f", "f.json", "--now", "2024-03-10T12:00:00Z"]

def noon : Calendar.Instant where
  utc := ⟨.ofCivil ⟨2024, 3, 10⟩,
    { Calendar.TimeOfDay.midnight with seconds := 43200, secondsInDay := by decide }⟩
  zone := .utc

def noonInvocation : Invocation where
  command := .compile
  given := [(.dataset, .text "d.json"), (.filters, .text "f.json"), (.now, .instant noon)]

end Sample

open Sample

/-- The upper bound is withheld in one run and refused in the other, whenever that is. -/
theorem CommandLine.bounds_refused :
    Invocation.parse ("compile" :: noonArguments) = .ok noonInvocation ∧
      noonInvocation.isSet .strict = false ∧ noonInvocation.now? = some noon ∧
      (run desk ("compile" :: noonArguments)).map Outcome.status = .ok 0 ∧
      (run { desk with now := noon } ("compile" :: "--strict" :: noonArguments)).map
        Outcome.status = .ok 1 ∧
      ∃ plain strict, run desk ("compile" :: noonArguments) = .ok plain ∧
        run { desk with now := noon } ("compile" :: "--strict" :: noonArguments) = .ok strict ∧
        strict.StrictlyOf plain
          (∃ inputs, loadInputs desk noonInvocation = .ok inputs ∧ inputs.block.Literal) ∧
        (plain.status = 0 → ∃ inputs expression,
          loadInputs desk noonInvocation = .ok inputs ∧
          (inputs.block.compile inputs.dataset
            { timezone := inputs.display.timezone, now := noon }).result = .ok expression ∧
          plain.output = documentLine noonInvocation expression.toJson) := by
  have parsed : Invocation.parse ("compile" :: noonArguments) = .ok noonInvocation := rfl
  have lenient : noonInvocation.isSet .strict = false := rfl
  have given : noonInvocation.now? = some noon := rfl
  exact ⟨parsed, lenient, given, by decide +kernel, by decide +kernel,
    run_strictly parsed lenient given noon⟩

end DashboardFilters
