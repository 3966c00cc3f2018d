import DashboardFilters.Text.Unprintable

namespace DashboardFilters.Text

/-- Lower-case hexadecimal digits without leading zeros. -/
def hexDigits (number : Nat) : List Char :=
  Nat.toDigits 16 number

/-- A character between quotes: itself, or an escape. -/
def quotedChar (character : Char) : List Char :=
  match character with
  | '\x00' => ['\\', '0']
  | '\t' => ['\\', 't']
  | '\r' => ['\\', 'r']
  | '\n' => ['\\', 'n']
  | '"' => ['\\', '"']
  | '\\' => ['\\', '\\']
  | _ =>
      if isUnprintable character then
        ['\\', 'u', '\x7b'] ++ hexDigits character.toNat ++ ['\x7d']
      else [character]

def quoted (text : String) : String :=
  String.ofList (['"'] ++ text.toList.flatMap quotedChar ++ ['"'])

end DashboardFilters.Text
