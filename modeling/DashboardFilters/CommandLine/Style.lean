import DashboardFilters.Text.Pieces

namespace DashboardFilters.CommandLine

/-- The control sequence of a number. -/
def control (number : String) : String :=
  String.singleton '\x1b' ++ "[" ++ number ++ "m"

def bold (text : String) : String :=
  control "1" ++ text ++ control "0"

def dimmed (text : String) : String :=
  control "2" ++ text ++ control "0"

def coloured (colour : String) (text : String) : String :=
  control colour ++ text ++ control "39"

def red : String → String := coloured "31"
def yellow : String → String := coloured "33"
def blue : String → String := coloured "34"
def cyan : String → String := coloured "36"
def white : String → String := coloured "37"

def line (text : String) : String :=
  text ++ "\n"

/-- A title between empty lines, underlined once for each byte. -/
def header (text : String) : String :=
  line "" ++ line (cyan (bold text)) ++
    line (dimmed (String.ofList (List.replicate text.utf8ByteSize '─'))) ++ line ""

def part (text : String) : String :=
  line (white (bold text))

def keyValue (key value : String) : String :=
  line ("  " ++ dimmed key ++ ": " ++ value)

def listItem (text : String) : String :=
  line ("  " ++ dimmed "•" ++ " " ++ text)

def infoLine (text : String) : String :=
  line (bold (blue "ℹ") ++ " " ++ text)

def warningLine (text : String) : String :=
  line (bold (yellow "⚠") ++ " " ++ yellow text)

def errorLine (text : String) : String :=
  line (bold (red "✖") ++ " " ++ red text)

end DashboardFilters.CommandLine
