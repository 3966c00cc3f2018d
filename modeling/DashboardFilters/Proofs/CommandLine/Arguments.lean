import DashboardFilters.CommandLine.Arguments
import DashboardFilters.Proofs.Outcome

namespace DashboardFilters.CommandLine

open Outcome (bind_eq_ok_iff)

def Invocation.strictly (invocation : Invocation) : Invocation :=
  { invocation with given := (.strict, .set) :: invocation.given }

namespace Taken

def strictly (taken : Taken) : Taken :=
  { taken with given := (.strict, .set) :: taken.given }

/-- Whether none of the arguments asks to be strict. -/
def Lenient (taken : Taken) : Prop :=
  ∀ given ∈ taken.given, given.1 ≠ .strict

/-- Whether a step that ends without the request to be strict began without it, and does the same
behind it. -/
def Follows (step : Taken → Except UsageError Taken) : Prop :=
  ∀ taken next, step taken = .ok next → next.Lenient →
    taken.Lenient ∧ step taken.strictly = .ok next.strictly

/-- Two steps follow when each of them does. -/
theorem follows_bind {first second : Taken → Except UsageError Taken} (begins : Follows first)
    (ends : Follows second) : Follows fun taken => first taken >>= second := by
  intro taken next succeeds lenient
  obtain ⟨middle, begun, ended⟩ := bind_eq_ok_iff.mp succeeds
  obtain ⟨between, later⟩ := ends middle next ended lenient
  obtain ⟨before, earlier⟩ := begins taken middle begun between
  exact ⟨before, bind_eq_ok_iff.mpr ⟨_, earlier, later⟩⟩

/-- Nothing follows a step that fails. -/
theorem follows_error {step : Taken → Except UsageError Taken}
    (fails : ∀ taken next, step taken ≠ .ok next) : Follows step :=
  fun taken next succeeds => absurd succeeds (fails taken next)

/-- An argument is given when it has not been given before and can be read. -/
theorem give_eq_ok_iff {taken next : Taken} {parameter : Parameter}
    {given : Except UsageError Given} : taken.give parameter given = .ok next ↔
      (taken.given.any fun other => other.1 == parameter) = false ∧ ∃ value, given = .ok value ∧
        next = { taken with given := taken.given ++ [(parameter, value)] } := by
  unfold give
  split
  next repeated => simp [repeated, throw, throwThe, MonadExceptOf.throw, bind, Except.bind]
  next fresh => cases given <;> simp [fresh, bind, Except.bind, pure, Except.pure, eq_comm]

/-- An argument other than the request to be strict may be given behind it. -/
theorem follows_give (parameter : Parameter) (given : Except UsageError Given) :
    Follows (·.give parameter given) := by
  intro taken next succeeds lenient
  obtain ⟨fresh, value, known, rfl⟩ := give_eq_ok_iff.mp succeeds
  have other : parameter ≠ .strict := lenient (parameter, value) (by simp)
  refine ⟨fun before member => lenient before (List.mem_append_left _ member), ?_⟩
  have still : (taken.strictly.given.any fun before => before.1 == parameter) = false := by
    simpa [strictly, other.symm] using fresh
  exact give_eq_ok_iff.mpr ⟨still, value, known, rfl⟩

theorem follows_settle : Follows settle := by
  intro taken next succeeds lenient
  obtain ⟨given, pending, literal⟩ := taken
  match pending with
  | none =>
      cases succeeds
      exact ⟨lenient, rfl⟩
  | some (_, none) => cases succeeds
  | some (parameter, some text) =>
      exact follows_give parameter (parameter.check text) ⟨given, none, literal⟩ next succeeds
        lenient

theorem follows_option (switch : Switch) (attached : Option String) :
    Follows (·.option switch attached) := by
  unfold option
  cases switch.takesValue with
  | false =>
      cases attached with
      | none => exact follows_bind follows_settle (follows_give _ _)
      | some text => exact follows_error nofun
  | true =>
      cases attached with
      | some text => exact follows_bind follows_settle (follows_give _ _)
      | none =>
          refine follows_bind follows_settle ?_
          rintro taken _ ⟨⟩ lenient
          exact ⟨lenient, rfl⟩

/-- Nothing is taken when something else is asked for. -/
theorem divert_ne_ok (taken next : Taken) (attached : Bool) (request : UsageError) :
    taken.divert attached request ≠ .ok next := by
  unfold divert
  cases attached with
  | true => exact nofun
  | false =>
      intro succeeds
      obtain ⟨settled, -, ⟨⟩⟩ := bind_eq_ok_iff.mp succeeds

/-- What is no option of the command asks for something else, or is unknown. -/
theorem follows_unlisted (attached : Bool) {help version : Prop} [Decidable help]
    [Decidable version] : Follows fun taken =>
      if help then taken.divert attached .help
      else if version then taken.divert attached .version
      else .error .unknownArgument := by
  refine follows_error fun taken next => ?_
  split
  · exact divert_ne_ok taken next attached .help
  · split
    · exact divert_ne_ok taken next attached .version
    · exact nofun

theorem follows_longOption (switches : List Switch) (text : List Char) :
    Follows (·.longOption switches text) := by
  unfold longOption
  dsimp only
  split
  · exact follows_option _ _
  · exact follows_unlisted _

theorem follows_shortOption (switches : List Switch) (letter : Char) (rest : List Char) :
    Follows (·.shortOption switches letter rest) := by
  unfold shortOption
  dsimp only
  split
  · exact follows_option _ _
  · exact follows_unlisted _

/-- The next argument of the command as long as arguments are not taken literally: a name, or the
value that the name before it awaits. -/
def readArgument (taken : Taken) (argument : String) : Except UsageError Taken :=
  match argument.toList with
  | ['-', '-'] => .ok { taken with literal := true }
  | '-' :: '-' :: text => taken.longOption (Command.switches .compile) text
  | '-' :: letter :: rest => taken.shortOption (Command.switches .compile) letter rest
  | _ => match taken.awaitsValue with
    | some parameter => .ok { taken with pending := some (parameter, some argument) }
    | none => .error .unknownArgument

/-- Names and awaited values follow. -/
theorem follows_readArgument (argument : String) : Follows (readArgument · argument) := by
  unfold readArgument
  split
  · rintro taken _ ⟨⟩ lenient
    exact ⟨lenient, rfl⟩
  · exact follows_longOption _ _
  · exact follows_shortOption _ _ _
  · intro taken after succeeds lenient
    have same : taken.strictly.awaitsValue = taken.awaitsValue := rfl
    dsimp only at succeeds ⊢
    rw [same]
    cases awaits : taken.awaitsValue with
    | none =>
        rw [awaits] at succeeds
        cases succeeds
    | some parameter =>
        rw [awaits] at succeeds
        cases succeeds
        exact ⟨lenient, rfl⟩

/-- Every argument of the command follows; it takes none without a name. -/
theorem follows_next (argument : String) : Follows (next .compile · argument) := by
  intro taken after succeeds lenient
  obtain ⟨given, pending, literal⟩ := taken
  cases literal with
  | true => cases succeeds
  | false => exact follows_readArgument argument ⟨given, pending, false⟩ after succeeds lenient

/-- So do all arguments after each other. -/
theorem follows_foldlM (arguments : List String) :
    Follows fun taken => arguments.foldlM (next .compile) taken := by
  induction arguments with
  | nil =>
      rintro taken _ ⟨⟩ lenient
      exact ⟨lenient, rfl⟩
  | cons argument rest ih =>
      simp only [List.foldlM_cons]
      exact follows_bind (follows_next argument) ih

end Taken

/-- The request to be strict is not set when no argument is that request. -/
theorem Taken.lenient_of_isSet {command : Command} {taken : Taken}
    (unset : Invocation.isSet ⟨command, taken.given⟩ .strict = false) : taken.Lenient := by
  intro given member same
  have none := Option.isNone_iff_eq_none.mp (Option.isSome_eq_false_iff.mp unset)
  have other := List.lookup_eq_none_iff.mp none given member
  simp [same] at other

theorem Invocation.command_of_parse {arguments : List String} {invocation : Invocation}
    (parsed : parse ("compile" :: arguments) = .ok invocation) : invocation.command = .compile := by
  change ofArguments .compile arguments = _ at parsed
  obtain ⟨folded, -, remaining⟩ := bind_eq_ok_iff.mp parsed
  obtain ⟨taken, -, finished⟩ := bind_eq_ok_iff.mp remaining
  split at finished <;> cases finished
  rfl

/-- A command line that compiles without being strict can ask for that first. -/
theorem Invocation.parse_strictly {arguments : List String} {invocation : Invocation}
    (parsed : parse ("compile" :: arguments) = .ok invocation)
    (lenient : invocation.isSet .strict = false) :
    parse ("compile" :: "--strict" :: arguments) = .ok invocation.strictly := by
  change ofArguments .compile arguments = _ at parsed
  change ofArguments .compile ("--strict" :: arguments) = _
  obtain ⟨folded, begun, remaining⟩ := bind_eq_ok_iff.mp parsed
  obtain ⟨taken, settled, finished⟩ := bind_eq_ok_iff.mp remaining
  split at finished
  next complete =>
    cases finished
    have first : Taken.next .compile {} "--strict" = .ok (Taken.strictly {}) := rfl
    have follows := Taken.follows_bind (Taken.follows_foldlM arguments) Taken.follows_settle
    obtain ⟨-, behind⟩ := follows {} taken (bind_eq_ok_iff.mpr ⟨folded, begun, settled⟩)
      (Taken.lenient_of_isSet lenient)
    obtain ⟨others, foldedBehind, settledBehind⟩ := bind_eq_ok_iff.mp behind
    refine bind_eq_ok_iff.mpr ⟨others, ?_, bind_eq_ok_iff.mpr ⟨_, settledBehind, ?_⟩⟩
    · rw [List.foldlM_cons, first]
      exact foldedBehind
    · have required : (Command.required .compile).all (fun parameter =>
          taken.strictly.given.any fun other => other.1 == parameter) = true := by
        rw [List.all_eq_true] at complete ⊢
        intro parameter needed
        simp [Taken.strictly, complete parameter needed]
      rw [if_pos required]
      rfl
  next => cases finished

end DashboardFilters.CommandLine
