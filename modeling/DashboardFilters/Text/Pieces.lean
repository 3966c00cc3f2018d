import DashboardFilters.Text.Blank

namespace DashboardFilters.Text

/-- The items of a comma separated list: trimmed, and the empty ones left out. -/
def listItems (text : String) : List String :=
  ((text.toList.splitOn ',').map fun piece => String.ofList (trimChars piece)).filter (· ≠ "")

/-- The pieces with the separator between each two of them. -/
def joinWith (separator : String) (pieces : List String) : String :=
  String.intercalate separator pieces

/-- The rest of a text that begins with the given one. -/
def dropLeading? : (leading text : List Char) → Option (List Char)
  | [], text => some text
  | _ :: _, [] => none
  | expected :: leading, actual :: text =>
      if expected = actual then dropLeading? leading text else none

/-- The text with the capital letters of ASCII made small. -/
def lowerAscii (text : String) : String :=
  String.ofList (text.toList.map Char.toLower)

/-- The text with the small letters of ASCII made capital. -/
def upperAscii (text : String) : String :=
  String.ofList (text.toList.map Char.toUpper)

/-- A text of at least the given width, filled up at its end. -/
def padEnd (width : Nat) (filler : Char) (text : List Char) : List Char :=
  text ++ List.replicate (width - text.length) filler

/-- A text of at least the given width, filled up at its start. -/
def padStart (width : Nat) (filler : Char) (text : List Char) : List Char :=
  List.replicate (width - text.length) filler ++ text

end DashboardFilters.Text
