import DashboardFilters.Tree.Basic

namespace DashboardFilters

/-- A source of identifiers: a stem with a running number of 64 bits. -/
structure IdSequence where
  stem : String
  next : UInt64 := 1
  deriving DecidableEq, Repr

namespace IdSequence

/-- The identifier of a number. -/
def idAt (stem : String) (number : Nat) : String :=
  stem ++ "-" ++ toString number

/-- The next identifier, and the sequence that has used it up. -/
def draw (ids : IdSequence) : String × IdSequence :=
  (idAt ids.stem ids.next.toNat, { ids with next := ids.next + 1 })

end IdSequence

def Block.fresh {V : Type} (ids : IdSequence) : Block V × IdSequence :=
  let (id, ids) := ids.draw
  (Block.bare id, ids)

end DashboardFilters
