import DashboardFilters.Text.Pieces

/-!
References to environment variables in a configuration text. The references of the text are taken
one after another, and each replaces its spelling everywhere in the text as it then is; a reference
whose variable is not set stays.
-/

namespace DashboardFilters.Config

/-- The name between braces at the front of a text, and what follows the closing brace. -/
def bracedName? : List Char → Option (List Char × List Char)
  | '\x7b' :: rest =>
      match rest.span (· ≠ '\x7d') with
      | ([], _) => none
      | (name, '\x7d' :: after) => some (name, after)
      | _ => none
  | _ => none

/-- The names referred to, from left to right; references do not overlap. -/
def referencesWithin : Nat → List Char → List (List Char)
  | 0, _ => []
  | _, [] => []
  | fuel + 1, '$' :: rest =>
      match bracedName? rest with
      | some (name, after) => name :: referencesWithin fuel after
      | none => referencesWithin fuel rest
  | fuel + 1, _ :: rest => referencesWithin fuel rest

/-- The names referred to in a text; each reference takes characters from it. -/
def references (text : List Char) : List (List Char) :=
  referencesWithin text.length text

/-- Every occurrence of a pattern replaced, from left to right. -/
def replaceAllWithin (pattern replacement : List Char) : Nat → List Char → List Char
  | 0, text => text
  | _, [] => []
  | fuel + 1, character :: rest =>
      match Text.dropLeading? pattern (character :: rest) with
      | some after => replacement ++ replaceAllWithin pattern replacement fuel after
      | none => character :: replaceAllWithin pattern replacement fuel rest

/-- Every occurrence of a pattern in a text replaced. -/
def replaceAll (pattern replacement text : List Char) : List Char :=
  replaceAllWithin pattern replacement text.length text

def spelling (name : List Char) : List Char :=
  ['$', '\x7b'] ++ name ++ ['\x7d']

/-- The text with the values of all variables that are set. -/
def expand (environment : String → Option String) (text : String) : String :=
  String.ofList ((references text.toList).foldl (fun text name =>
    match environment (String.ofList name) with
    | some value => replaceAll (spelling name) value.toList text
    | none => text) text.toList)

end DashboardFilters.Config
