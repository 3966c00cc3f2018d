/-!
Blank characters and trimming. A character is blank when it has the Unicode property `White_Space`;
trimming removes blanks at the ends of a text and nothing else.
-/

namespace DashboardFilters.Text

/-- The characters of the Unicode property `White_Space`. -/
def isBlank (character : Char) : Bool :=
  let code := character.toNat
  (9 ≤ code && code ≤ 13) || code == 0x20 || code == 0x85 || code == 0xA0 || code == 0x1680 ||
    (0x2000 ≤ code && code ≤ 0x200A) || code == 0x2028 || code == 0x2029 || code == 0x202F ||
    code == 0x205F || code == 0x3000

def skipBlanks (text : List Char) : List Char :=
  text.dropWhile isBlank

def dropTrailingBlanks (text : List Char) : List Char :=
  (text.reverse.dropWhile isBlank).reverse

def trimChars (text : List Char) : List Char :=
  dropTrailingBlanks (skipBlanks text)

def trim (text : String) : String :=
  String.ofList (trimChars text.toList)

def trimEnd (text : String) : String :=
  String.ofList (dropTrailingBlanks text.toList)

end DashboardFilters.Text
