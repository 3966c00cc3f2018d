import DashboardFilters.Json.Numbers
import DashboardFilters.Json.Strings

namespace DashboardFilters.Json.Scan

open Reading (Error)

/-- Stands at the next item of an array: false at its end. -/
def nextItem (first : Bool) : Scan Bool := do
  match ← peekToken with
  | some ']' => return false
  | some ',' =>
      if first then return true
      skip
      match ← peekToken with
      | some ']' => failNext .trailingComma
      | some _ => return true
      | none => failHere .endInValue
  | some _ => if first then return true else failNext .listEndExpected
  | none => failHere .endInList

/-- Stands at the key of the next member of an object: false at its end. -/
def nextMember (first : Bool) : Scan Bool := do
  let token ← (do
    match ← peekToken with
    | some ',' =>
        if first then failNext .keyNotString
        skip
        match ← peekToken with
        | some '}' => failNext .trailingComma
        | token => return token
    | some '}' => return some '}'
    | some token => if first then return some token else failNext .objectEndExpected
    | none => failHere .endInObject : Scan (Option Char))
  match token with
  | some '"' => return true
  | some '}' => return false
  | some _ => failNext .keyNotString
  | none => failHere .endInValue

def key : Scan String := do
  skip
  string

/-- The colon behind the key of a member. -/
def colon : Scan Unit := do
  match ← peekToken with
  | some ':' => skip
  | some _ => failNext .colonExpected
  | none => failHere .endInObject

/-- The end of an array whose items have been read as far as wanted. -/
def closeArray : Scan Unit := do
  match ← peekToken with
  | some ']' => skip
  | some ',' =>
      skip
      match ← peekToken with
      | some ']' => failNext .trailingComma
      | _ => failNext .trailingCharacters
  | some _ => failNext .trailingCharacters
  | none => failHere .endInList

/-- The end of an object whose members have been read as far as wanted. -/
def closeObject : Scan Unit := do
  match ← peekToken with
  | some '}' => skip
  | some ',' => failNext .trailingComma
  | some _ => failNext .trailingCharacters
  | none => failHere .endInObject

/-- The items of an array, from its first item on. Every item but the first costs a comma, so the
length of the text bounds their number. -/
def itemsWithin {α : Type} (item : Scan α) : Nat → Bool → Scan (List α)
  | 0, _ => failHere .endInList
  | fuel + 1, first => do
      if ← nextItem first then
        let value ← item
        return value :: (← itemsWithin item fuel false)
      else return []

/-- The items of an array, from behind its bracket. -/
def items {α : Type} (item : Scan α) : Scan (List α) := do
  itemsWithin item ((← get).rest.length + 1) true

/-- The members of an object, from its first key on, each read by a scan that depends on its key
and on what has been read before. -/
def membersWithin {σ : Type} (member : σ → Scan σ) : Nat → Bool → σ → Scan σ
  | 0, _, _ => failHere .endInObject
  | fuel + 1, first, state => do
      if ← nextMember first then membersWithin member fuel false (← member state)
      else return state

/-- The members of an object, from behind its brace. -/
def members {σ : Type} (member : σ → Scan σ) (start : σ) : Scan σ := do
  membersWithin member ((← get).rest.length + 1) true start

/-- An array or object that begins at the cursor. -/
def within {α : Type} (body : Scan α) (close : Scan Unit) : Scan α :=
  nested (do
    skip
    thenAlways body close)

/-- The scalar that begins at the cursor; nothing if an array or object does. -/
def scalar? : Scan (Option Json) := do
  match ← peekToken with
  | none => failHere .endInValue
  | some 'n' =>
      skip
      letters "ull".toList
      return some .null
  | some 't' =>
      skip
      letters "rue".toList
      return some (.bool true)
  | some 'f' =>
      skip
      letters "alse".toList
      return some (.bool false)
  | some '-' =>
      skip
      return some (← number true)
  | some '"' =>
      skip
      return some (.string (← string))
  | some '[' | some '{' => return none
  | some character =>
      if Decimal.isDigit character then return some (← number false)
      else failNext .valueExpected

/-- A document of any shape; of several members with one key the last one counts. -/
def valueWithin : Nat → Scan Json
  | 0 => failNext .tooDeep
  | fuel + 1 => do
      match ← scalar? with
      | some value => return value
      | none =>
          if (← peek) == some '[' then
            within (do return .array (← items (valueWithin fuel))) closeArray
          else
            let member (sorted : List (String × Json)) : Scan (List (String × Json)) := do
              let name ← key
              colon
              return putMember name (← valueWithin fuel) sorted
            within (do return .object (← members member [])) closeObject

/-- A document as deep as the text may still be. -/
def value : Scan Json := do
  valueWithin (← read)

/-- Closes arrays and objects that end at the cursor, innermost first, and goes on to the next
value; the flags tell which of the open ones are objects. -/
def skipToNext : List Bool → Bool → Scan (List Bool)
  | [], _ => return []
  | inObject :: outer, afterValue => do
      let toValue : Scan (List Bool) := do
        if inObject then
          match ← peekToken with
          | some '"' => skip
          | some _ => failNext .keyNotString
          | none => failHere .endInObject
          skipString
          colon
        return inObject :: outer
      match ← peekToken with
      | none => failHere (if inObject then .endInObject else .endInList)
      | some token =>
          if token = ',' && afterValue then
            skip
            toValue
          else if token = (if inObject then '}' else ']') then
            skip
            skipToNext outer true
          else if afterValue then
            failNext (if inObject then .objectEndExpected else .listEndExpected)
          else toValue

/-- Skips a value inside open arrays and objects, and what follows it inside them. -/
def skipWithin : Nat → List Bool → Scan Unit
  | 0, _ => failHere .endInValue
  | fuel + 1, open_ => do
      let (enclosing, afterValue) ← (do
        match ← peekToken with
        | none => failHere .endInValue
        | some 'n' =>
            skip
            letters "ull".toList
            return (open_, true)
        | some 't' =>
            skip
            letters "rue".toList
            return (open_, true)
        | some 'f' =>
            skip
            letters "alse".toList
            return (open_, true)
        | some '-' =>
            skip
            skipNumber
            return (open_, true)
        | some '"' =>
            skip
            skipString
            return (open_, true)
        | some '[' =>
            skip
            return (false :: open_, false)
        | some '{' =>
            skip
            return (true :: open_, false)
        | some character =>
            if Decimal.isDigit character then
              skipNumber
              return (open_, true)
            else failNext .valueExpected : Scan (List Bool × Bool))
      let left ← skipToNext enclosing afterValue
      if !left.isEmpty then skipWithin fuel left

/-- A value that nobody asks for; its depth has no limit. -/
def skipValue : Scan Unit := do
  skipWithin ((← get).rest.length + 1) []

end Scan

def parse (text : String) : Except Reading.Error Json :=
  Scan.run Scan.value text

end DashboardFilters.Json
