import DashboardFilters.Temporal.Literal
import DashboardFilters.Tree.Basic

namespace DashboardFilters

/-- The text of a value; a temporal text is shown by the patterns of the display. -/
def Value.summary (column : Column) (display : Display) (value : Value) : String :=
  match column.temporalKind?, value with
  | some kind, .text literal =>
      match TemporalValue.parse literal kind display.timezone with
      | .ok parsed => parsed.display display.formats
      | .error _ => literal
  | _, other => other.displayText

/-- The text of an operand; an expression is shown as it was typed. -/
def Operand.summary (column : Column) (display : Display) : Operand Value → String
  | .manual expression => expression
  | .value picked => picked.summary column display

/-- What follows the name of the column. -/
def Predicate.summary (column : Column) (display : Display) (predicate : Predicate Value) :
    String :=
  let titled (text : String) : String := predicate.operator.title ++ " " ++ text
  match predicate with
  | .isNull | .isNotNull => titled ""
  | .compare _ operand => titled (operand.summary column display)
  | .between (.fixed left right) =>
      titled (left.summary column display ++ " - " ++ right.summary column display)
  | .between (.relative relative) => "for " ++ relative.title
  | .list _ values => titled (Text.joinWith ", " (Text.listItems values))

/-- Blanks at the end are left out, except behind a relative period. -/
def Filter.summary (column : Column) (display : Display) (filter : Filter Value) : String :=
  let line := column.displayName ++ " " ++ filter.predicate.summary column display
  match filter.predicate with
  | .between (.relative _) => line
  | _ => Text.trimEnd line

namespace Block

/-- The items of a block with its operator between them; nothing if there are none. -/
def joinItems (op : LogicalOp) (items : List String) : Option String :=
  if items.isEmpty then none else some (Text.joinWith (" " ++ op.title ++ " ") items)

mutual

/-- The summary of a block; nothing if it shows no filter. -/
def summary (dataset : Dataset) (display : Display) : Block Value → Except Failure (Option String)
  | ⟨_, op, filters, blocks⟩ => do
      let own ← (filters.filter Filter.shown).mapM fun filter => do
        return filter.summary (← dataset.lookup filter.column) display
      let nested ← nestedSummaries dataset display blocks
      return joinItems op (own ++ nested)

/-- The summaries of sub-blocks that have one, in parentheses. -/
def nestedSummaries (dataset : Dataset) (display : Display) :
    List (Block Value) → Except Failure (List String)
  | [] => .ok []
  | block :: rest => do
      let first ← summary dataset display block
      let others ← nestedSummaries dataset display rest
      match first with
      | some text => return ("(" ++ text ++ ")") :: others
      | none => return others

end

end Block

end DashboardFilters
