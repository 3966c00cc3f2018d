import DashboardFilters.Config.Reader
import DashboardFilters.Proofs.Outcome
import DashboardFilters.Temporal.Literal

namespace DashboardFilters.Calendar

/-- Where two values are both there or both missing, a step that succeeds for either of them
succeeds for the other one. -/
theorem isSome_bind_congr {α β γ : Type} {first : Option α} {second : Option β}
    {next : α → Option γ} {other : β → Option γ} (same : first.isSome = second.isSome)
    (follows : ∀ a b, (next a).isSome = (other b).isSome) :
    (first.bind next).isSome = (second.bind other).isSome := by
  cases first with
  | none =>
      cases second with
      | none => rfl
      | some b => cases same
  | some a =>
      cases second with
      | none => cases same
      | some b => exact follows a b

/-- Whether two values have the same parts, whatever these are. -/
structure Shown.SameParts (shown other : Shown) : Prop where
  date : shown.date.isSome = other.date.isSome
  time : shown.time.isSome = other.time.isSome
  zone : shown.zone.isSome = other.zone.isSome

variable {shown other : Shown}

theorem Number.isSome_ofDate? (number : Number) (date another : Date) :
    (number.ofDate? date).isSome = (number.ofDate? another).isSome := by
  cases number <;> rfl

theorem Number.isSome_ofTime? (number : Number) (time another : TimeOfDay) :
    (number.ofTime? time).isSome = (number.ofTime? another).isSome := by
  cases number <;> rfl

/-- Whether a number can be shown depends on the parts that are there. -/
theorem Number.isSome_text? (same : shown.SameParts other) (number : Number) (fill : Fill) :
    (number.text? fill shown).isSome = (number.text? fill other).isSome := by
  have parts : ((shown.date.bind fun date => number.ofDate? date).or
      (shown.time.bind fun time => number.ofTime? time)).isSome =
      ((other.date.bind fun date => number.ofDate? date).or
        (other.time.bind fun time => number.ofTime? time)).isSome := by
    rw [Option.isSome_or, Option.isSome_or, isSome_bind_congr same.date number.isSome_ofDate?,
      isSome_bind_congr same.time number.isSome_ofTime?]
  cases number with
  | timestamp =>
      exact isSome_bind_congr same.date fun _ _ => isSome_bind_congr same.time fun _ _ => rfl
  | _ =>
      dsimp only [text?]
      rw [Option.isSome_map, Option.isSome_map, parts]

/-- Whether a text is made from a part depends on whether the part is there. -/
theorem isSome_map_congr {α β γ : Type} {first : Option α} {second : Option β}
    {text : α → γ} {another : β → γ} (same : first.isSome = second.isSome) :
    (first.map text).isSome = (second.map another).isSome := by
  rw [Option.isSome_map, Option.isSome_map, same]

/-- Whether a piece of a pattern can be shown depends on the parts that are there. -/
theorem Part.isSome_text? (same : shown.SameParts other) (part : Part) :
    (part.text? shown).isSome = (part.text? other).isSome := by
  cases part with
  | literal | unshowable => rfl
  | number number fill => exact number.isSome_text? same fill
  | monthName | weekdayName => exact isSome_map_congr same.date
  | halfDay | fractionDigits => exact isSome_map_congr same.time
  | fraction digits => cases digits <;> exact isSome_map_congr same.time
  | zoneName | offset => exact isSome_map_congr same.zone
  | exchange =>
      exact isSome_bind_congr same.date fun _ _ => isSome_bind_congr same.time fun _ _ =>
        isSome_bind_congr same.zone fun _ _ => rfl

/-- Whether all pieces can be shown depends on the parts that are there. -/
theorem Shown.isSome_format? (same : shown.SameParts other) (parts : List Part) :
    (shown.format? parts).isSome = (other.format? parts).isSome := by
  have texts : (parts.mapM (Part.text? · shown)).isSome =
      (parts.mapM (Part.text? · other)).isSome := by
    induction parts with
    | nil => rfl
    | cons part rest ih =>
        rw [List.mapM_cons, List.mapM_cons]
        exact isSome_bind_congr (part.isSome_text? same) fun _ _ =>
          isSome_bind_congr ih fun _ _ => rfl
  exact isSome_bind_congr texts fun _ _ => rfl

/-- Whether a pattern can show a value depends on the parts that the value has. -/
theorem Shown.isSome_formatBy? (same : shown.SameParts other) (pattern : String) :
    (shown.formatBy? pattern).isSome = (other.formatBy? pattern).isSome := by
  dsimp only [formatBy?]
  cases Part.ofText? pattern with
  | none => rfl
  | some parts => exact isSome_format? same parts

theorem Date.sameParts (date other : Date) : date.shown.SameParts other.shown :=
  ⟨rfl, rfl, rfl⟩

theorem TimeOfDay.sameParts (time other : TimeOfDay) : time.shown.SameParts other.shown :=
  ⟨rfl, rfl, rfl⟩

theorem Instant.sameParts (instant other : Instant) : instant.shown.SameParts other.shown :=
  ⟨rfl, rfl, rfl⟩

end DashboardFilters.Calendar

namespace DashboardFilters.Config

open Calendar (Shown)
open Outcome (bind_eq_ok_iff forM_eq_ok_iff)

variable {config changed : Config}

/-- A pattern passes the second check when it shows the sample. -/
theorem PatternCheck.showable_eq_ok_iff {check : PatternCheck} :
    check.showable = .ok () ↔ (check.sample.formatBy? check.pattern).isSome := by
  cases known : check.sample.formatBy? check.pattern <;> simp [showable, known]

theorem shows_samples (valid : config.validate = .ok ()) :
    ∀ check ∈ patternChecks config.display.formats,
      (check.sample.formatBy? check.pattern).isSome := by
  obtain ⟨⟨⟩, -, remaining⟩ := bind_eq_ok_iff.mp valid
  obtain ⟨⟨⟩, shown, -⟩ := bind_eq_ok_iff.mp remaining
  intro check member
  exact PatternCheck.showable_eq_ok_iff.mp (forM_eq_ok_iff.mp shown check member)

/-- The patterns of a valid configuration show every value of their kind. -/
theorem isSome_formatted? (valid : config.validate = .ok ()) (value : TemporalValue) :
    (value.formatted? config.display.formats).isSome := by
  have samples := shows_samples valid
  simp only [patternChecks, List.forall_mem_cons] at samples
  obtain ⟨date, time, dateTime, -⟩ := samples
  cases value with
  | date day => exact (Shown.isSome_formatBy? (day.sameParts _) _).trans date
  | time clock => exact (Shown.isSome_formatBy? (clock.sameParts _) _).trans time
  | dateTime instant => exact (Shown.isSome_formatBy? (instant.sameParts _) _).trans dateTime

theorem validate_ofText {variableOf : String → Option String} {content : String}
    (loaded : ofText variableOf content = .ok config) : config.validate = .ok () := by
  unfold ofText at loaded
  split at loaded
  · cases loaded
  · split at loaded
    · cases loaded
    · obtain ⟨⟨⟩, valid, ⟨⟩⟩ := bind_eq_ok_iff.mp loaded
      exact valid

/-- What an environment makes of a configuration is valid, known or not. -/
theorem validate_inEnvironment {environment : String}
    (entered : config.inEnvironment environment = .ok changed) : changed.validate = .ok () := by
  obtain ⟨⟨⟩, valid, ⟨⟩⟩ := bind_eq_ok_iff.mp entered
  exact valid

/-- A valid configuration is valid in all environments that it can be taken to. -/
theorem validate_inEnvironments {environments : List String} (valid : config.validate = .ok ())
    (entered : environments.foldlM inEnvironment config = .ok changed) :
    changed.validate = .ok () := by
  induction environments generalizing config with
  | nil =>
      cases entered
      exact valid
  | cons environment rest ih =>
      obtain ⟨middle, first, remaining⟩ := bind_eq_ok_iff.mp entered
      exact ih (validate_inEnvironment first) remaining

/-- The patterns of a configuration that has been read, and then taken to any environments, show
every value of their kind, so that users never see the ISO text in their place. -/
theorem shows_every_value {variableOf : String → Option String} {content : String}
    {environments : List String} (loaded : ofText variableOf content = .ok config)
    (entered : environments.foldlM inEnvironment config = .ok changed) :
    let formats := changed.display.formats
    (∀ day, ∃ text, day.shown.formatBy? formats.date = some text ∧
      (TemporalValue.date day).display formats = text) ∧
    (∀ clock, ∃ text, clock.shown.formatBy? formats.time = some text ∧
      (TemporalValue.time clock).display formats = text) ∧
    ∀ instant, ∃ text, instant.shown.formatBy? formats.dateTime = some text ∧
      (TemporalValue.dateTime instant).display formats = text := by
  have valid := validate_inEnvironments (validate_ofText loaded) entered
  have shown (value : TemporalValue) :
      ∃ text, value.formatted? changed.display.formats = some text ∧
        value.display changed.display.formats = text := by
    obtain ⟨text, formatted⟩ := Option.isSome_iff_exists.mp (isSome_formatted? valid value)
    exact ⟨text, formatted, by rw [TemporalValue.display, formatted, Option.getD_some]⟩
  exact ⟨fun day => shown (.date day), fun clock => shown (.time clock),
    fun instant => shown (.dateTime instant)⟩

end DashboardFilters.Config

namespace DashboardFilters

namespace Sample

/-- A configuration file with its own pattern for times, and with one for dates in a lobby. -/
def lobbyText : String :=
  "[display]\ntime_format = \"%I:%M %p\"\n" ++
    "[environments.lobby.display]\ndate_format = \"%A %e %B %Y\"\n"

def lobbyConfig : Config where
  display := { formats := { time := "%I:%M %p" } }
  environments := [("lobby", { display := some { date := some "%A %e %B %Y" } })]

def lobbyEntered : Config where
  display := { formats := { date := "%A %e %B %Y", time := "%I:%M %p" } }

end Sample

/-- In a lobby, and then in a street that the file does not mention, the first day that there is
can be shown. -/
theorem Config.lobby_shows_first_day :
    Config.ofText (fun _ => none) Sample.lobbyText = .ok Sample.lobbyConfig ∧
      ["lobby", "street"].foldlM Config.inEnvironment Sample.lobbyConfig =
        .ok Sample.lobbyEntered ∧
      ∃ text, Calendar.Date.first.shown.formatBy? "%A %e %B %Y" = some text ∧
        (TemporalValue.date .first).display Sample.lobbyEntered.display.formats = text := by
  have loaded : Config.ofText (fun _ => none) Sample.lobbyText = .ok Sample.lobbyConfig := by
    decide +kernel
  have entered : ["lobby", "street"].foldlM Config.inEnvironment Sample.lobbyConfig =
      .ok Sample.lobbyEntered := by
    decide +kernel
  exact ⟨loaded, entered, (Config.shows_every_value loaded entered).1 .first⟩

end DashboardFilters
