import ColumnChecks.Text.InvisibleTable

/-!
Text displayed for a reader of messages: between double quotes, with invisible characters shown
by number.
-/

namespace ColumnChecks.Text

def escapedChar (char : Char) : List Char :=
  if char = '\u0000' then ['\\', '0']
  else if char = '\t' then ['\\', 't']
  else if char = '\r' then ['\\', 'r']
  else if char = '\n' then ['\\', 'n']
  else if char = '"' || char = '\\' then ['\\', char]
  else if invisible.contains char then
    ['\\', 'u', '{'] ++ Nat.toDigits 16 char.toNat ++ ['}']
  else [char]

def escaped (text : String) : String :=
  String.ofList (['"'] ++ text.toList.flatMap escapedChar ++ ['"'])

end ColumnChecks.Text
