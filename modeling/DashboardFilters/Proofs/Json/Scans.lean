import DashboardFilters.Json.TypedText
import DashboardFilters.Proofs.Reading.Yields

/-!
Properties of what scans of JSON text yield. A scan that fails yields nothing, so that only the
places where a scan goes on count: errors may be placed, and the end of an array or object may be
looked for behind them.
-/

namespace DashboardFilters.Json.Scan

open Reading (Error Field Record)

variable {α β σ : Type}

/-- Whether all that a scan yields has a property, wherever it begins. -/
def Yields (property : α → Prop) (scan : Scan α) : Prop :=
  ∀ budget cursor value left, scan budget cursor = (.ok value, left) → property value

theorem yields_true (scan : Scan α) : Yields (fun _ => True) scan :=
  fun _ _ _ _ _ => trivial

theorem yields_pure {property : α → Prop} {value : α} (holds : property value) :
    Yields property (pure value) := by
  rintro budget cursor _ _ ⟨⟩
  exact holds

theorem yields_throw {property : α → Prop} (error : Error) :
    Yields property (throw error : Scan α) := by
  rintro budget cursor _ _ ⟨⟩

/-- A step that follows a scan goes on where the scan ended, unless it failed. -/
theorem bind_apply (scan : Scan α) (next : α → Scan β) (budget : Nat) (cursor : Cursor) :
    (scan >>= next) budget cursor = match scan budget cursor with
      | (.ok value, between) => next value budget between
      | (.error error, between) => (.error error, between) := by
  simp only [bind, ReaderT.bind, ExceptT.bind, ExceptT.mk, StateT.bind]
  rcases scan budget cursor with ⟨_ | _, _⟩ <;> rfl

/-- An error is handled where the scan stopped. -/
theorem tryCatch_apply (scan : Scan α) (handle : Error → Scan α) (budget : Nat) (cursor : Cursor) :
    (tryCatch scan handle : Scan α) budget cursor = match scan budget cursor with
      | (.ok value, left) => (.ok value, left)
      | (.error error, between) => handle error budget between := by
  simp only [tryCatch, tryCatchThe, MonadExceptOf.tryCatch, ExceptT.tryCatch, ExceptT.mk, bind,
    StateT.bind]
  rcases scan budget cursor with ⟨_ | _, _⟩ <;> rfl

/-- A step that follows a scan uses what the scan yields. -/
theorem yields_bind {property : α → Prop} {result : β → Prop} {scan : Scan α} {next : α → Scan β}
    (scans : Yields property scan)
    (continues : ∀ value, property value → Yields result (next value)) :
    Yields result (scan >>= next) := by
  intro budget cursor value left succeeds
  rw [bind_apply] at succeeds
  split at succeeds
  next middle between first =>
    exact continues middle (scans budget cursor middle between first) budget between value left
      succeeds
  next => cases succeeds

/-- An error can be handled by another scan. -/
theorem yields_tryCatch {property : α → Prop} {scan : Scan α} {handle : Error → Scan α}
    (scans : Yields property scan) (handles : ∀ error, Yields property (handle error)) :
    Yields property (tryCatch scan handle) := by
  intro budget cursor value left succeeds
  rw [tryCatch_apply] at succeeds
  split at succeeds
  next first =>
    cases succeeds
    exact scans budget cursor value left first
  next error between _ => exact handles error budget between value left succeeds

/-- A step after which nothing is known. -/
theorem yields_step {result : β → Prop} {scan : Scan α} {next : α → Scan β}
    (continues : ∀ value, Yields result (next value)) : Yields result (scan >>= next) :=
  yields_bind (yields_true scan) fun value _ => continues value

/-- The fault may lie anywhere. -/
theorem yields_failAt {property : α → Prop} (fault : Reading.SyntaxFault)
    (place : Reading.Position) : Yields property (failAt fault place : Scan α) :=
  yields_throw _

theorem yields_failHere {property : α → Prop} (fault : Reading.SyntaxFault) :
    Yields property (failHere fault : Scan α) :=
  yields_step fun _ => yields_failAt fault _

theorem yields_failNext {property : α → Prop} (fault : Reading.SyntaxFault) :
    Yields property (failNext fault : Scan α) :=
  yields_step fun _ => yields_failAt fault _

/-- A step behind a scan that always fails is never taken. -/
theorem yields_afterFailure {result : β → Prop} {scan : Scan α} {next : α → Scan β}
    (fails : Yields (fun _ => False) scan) : Yields result (scan >>= next) :=
  yields_bind fails fun _ impossible => impossible.elim

/-- What comes behind a step that need not be taken. -/
theorem yields_afterOptional {property : α → Prop} {test : Prop} [Decidable test]
    {step : Scan Unit} {scan : Scan α} (scans : Yields property scan) :
    Yields property (if test then step >>= fun _ => scan else scan) := by
  split
  · exact yields_step fun _ => scans
  · exact scans

/-- A result is what was expected of it, if it is none of the errors. -/
theorem yields_ofResult {property : α → Prop} {result : Except Error α}
    (holds : ∀ value, result = .ok value → property value) : Yields property (ofResult result) := by
  cases result with
  | error error => exact yields_throw error
  | ok value => exact yields_pure (holds value rfl)

/-- The wrong thing yields nothing. -/
theorem yields_wrongType {property : α → Prop} (expected : String) :
    Yields property (wrongType expected : Scan α) :=
  yields_step fun _ => yields_step fun _ => yields_throw _

section

variable {property : α → Prop} {scan : Scan α}

/-- One more open array or object changes nothing about what is yielded. -/
theorem yields_nested (scans : Yields property scan) : Yields property (nested scan) := by
  refine yields_step fun budget => ?_
  split
  · exact yields_failNext _
  · exact fun _ => scans (budget - 1)

/-- The place of an error changes nothing about what is yielded. -/
theorem yields_placed (scans : Yields property scan) : Yields property (placed scan) :=
  yields_tryCatch scans fun _ => yields_step fun _ => yields_throw _

/-- What follows in any case changes nothing about what is yielded. -/
theorem yields_thenAlways (scans : Yields property scan) (after : Scan Unit) :
    Yields property (thenAlways scan after) := by
  -- What the scan came to is kept while the other one runs, and is given back behind it.
  have outcome : Yields (fun outcome => ∀ value, outcome = .ok value → property value)
      (tryCatch (do return Except.ok (← scan)) fun error => return Except.error error
        : Scan (Except Error α)) := by
    refine yields_tryCatch (yields_bind scans fun value holds => yields_pure ?_) fun error => ?_
    · rintro _ ⟨⟩
      exact holds
    · exact yields_pure nofun
  refine yields_bind outcome fun outcome holds => ?_
  cases outcome with
  | ok value => exact yields_step fun _ => yields_pure (holds value rfl)
  | error error => exact yields_step fun _ => yields_throw error

/-- An array or object yields what its body does. -/
theorem yields_within (scans : Yields property scan) (close : Scan Unit) :
    Yields property (within scan close) :=
  yields_nested (yields_step fun _ => yields_thenAlways scans close)

theorem yields_optional (scans : Yields property scan) :
    Yields (fun value => ∀ inner ∈ value, property inner) (optional scan) := by
  refine yields_step fun token => ?_
  split
  · exact yields_step fun _ => yields_pure nofun
  · refine yields_bind scans fun value holds => yields_pure ?_
    rintro _ ⟨⟩
    exact holds

/-- The items of an array are what the scan of an item yields, however many there may be. -/
theorem yields_itemsWithin (scans : Yields property scan) (fuel : Nat) (first : Bool) :
    Yields (fun values => ∀ value ∈ values, property value) (itemsWithin scan fuel first) := by
  induction fuel generalizing first with
  | zero => exact yields_failHere _
  | succ fuel ih =>
      refine yields_step fun more => ?_
      split
      · refine yields_bind scans fun value holds => yields_bind (ih false) fun values others => ?_
        exact yields_pure (List.forall_mem_cons.mpr ⟨holds, others⟩)
      · exact yields_pure (List.forall_mem_nil _)

theorem yields_list (scans : Yields property scan) :
    Yields (fun values => ∀ value ∈ values, property value) (list scan) := by
  refine yields_step fun token => ?_
  split
  · exact yields_placed (yields_within (yields_step fun _ => yields_itemsWithin scans _ true) _)
  · exact yields_wrongType _

end

section

variable {invariant : σ → Prop}

/-- Members that keep an invariant keep it one after another. -/
theorem yields_membersWithin {member : σ → Scan σ}
    (keeps : ∀ state, invariant state → Yields invariant (member state)) (fuel : Nat) (first : Bool)
    {state : σ} (holds : invariant state) :
    Yields invariant (membersWithin member fuel first state) := by
  induction fuel generalizing first state with
  | zero => exact yields_failHere _
  | succ fuel ih =>
      refine yields_step fun more => ?_
      split
      · exact yields_bind (keeps state holds) fun next kept => ih false kept
      · exact yields_pure holds

/-- Fields written by place keep an invariant. -/
theorem yields_fillPlaced {expected : String} {fields : List (Field Scan σ)}
    (keeps : ∀ field ∈ fields, ∀ state, invariant state → Yields invariant (field.fill state))
    (index : Nat) {state : σ} (holds : invariant state) :
    Yields invariant (fillPlaced expected fields index state) := by
  induction fields generalizing index state with
  | nil => exact yields_pure holds
  | cons field rest ih =>
      rw [List.forall_mem_cons] at keeps
      refine yields_step fun more => ?_
      split
      · exact yields_bind (keeps.1 state holds) fun next kept => ih keeps.2 (index + 1) kept
      · split
        · exact yields_throw _
        · exact ih keeps.2 (index + 1) holds

/-- A field written by name keeps an invariant. -/
theorem yields_fillNamed {record : Record Scan σ α}
    (keeps : ∀ field ∈ record.fields, ∀ state, invariant state →
      Yields invariant (field.fill state)) {state : σ} (holds : invariant state) :
    Yields invariant (fillNamed record state) := by
  refine yields_step fun name => ?_
  have found : Yields (fun field? => ∀ field ∈ field?, field ∈ record.fields)
      (ofResult (record.field name state)) := by
    refine yields_ofResult fun field? known field same => ?_
    obtain rfl := Option.mem_def.mp same
    exact Record.mem_of_field known
  refine yields_bind found fun field? member => ?_
  cases field? with
  | none => exact yields_step fun _ => yields_step fun _ => yields_pure holds
  | some field => exact yields_step fun _ => keeps field (member field rfl) state holds

variable (invariant) in
/-- A record yields what follows from an invariant that all of its fields keep. -/
theorem yields_record {property : α → Prop} {record : Record Scan σ α}
    (start : invariant record.start)
    (keeps : ∀ field ∈ record.fields, ∀ state, invariant state →
      Yields invariant (field.fill state))
    (finish : ∀ state value, invariant state → record.finish state = .ok value → property value) :
    Yields property (Scan.record record) := by
  have finished (state : σ) (holds : invariant state) :
      Yields property (ofResult (record.finish state)) :=
    yields_ofResult fun value => finish state value holds
  refine yields_step fun token => ?_
  split
  · refine yields_placed (yields_within (yields_bind (yields_step fun _ => ?_) finished) _)
    exact yields_membersWithin (fun _ => yields_fillNamed keeps) _ true start
  · refine yields_placed (yields_within (yields_bind ?_ finished) _)
    exact yields_fillPlaced keeps 0 start
  · exact yields_wrongType _

end

/-- What scans yield follows the rules of all sources; documents may be any. -/
def logic : Reading.Logic Scan (fun _ => True) where
  Yields := Yields
  anything := yields_true
  pure := yields_pure
  fail := yields_throw
  bind := yields_bind
  value := yields_true value
  optional := yields_optional
  items := yields_list
  record invariant start fields finish := yields_record invariant start fields finish

/-- What is scanned of a whole text has the property too. -/
theorem Yields.run {property : α → Prop} {scan : Scan α} (scans : Yields property scan)
    {text : String} {value : α} (known : Scan.run scan text = .ok value) : property value := by
  have all : Yields property (do
      let value ← scan
      finish
      return value) :=
    yields_bind scans fun value holds => yields_step fun _ => yields_pure holds
  exact all budget (Cursor.start text) value _ (Prod.ext known rfl)

/-- Changing what a scan yields changes what is read of a text, and no error. -/
theorem run_map (change : α → β) (scan : Scan α) (text : String) :
    run (do return change (← scan)) text = (run scan text).map change := by
  rw [run, run, bind_apply, bind_apply, bind_apply]
  rcases scan budget (Cursor.start text) with ⟨_ | value, left⟩
  · rfl
  · change ((finish >>= fun _ => pure (change value)) budget left).1 =
      ((finish >>= fun _ => pure value) budget left).1.map change
    rw [bind_apply, bind_apply]
    rcases finish budget left with ⟨_ | _, _⟩ <;> rfl

end DashboardFilters.Json.Scan
