import DateAdjust.Text.Visible

/-! Text in double quotes, as messages show it. A character that would not be visible is written by
a short name or by its code point. -/

namespace DateAdjust.Text

def quoteChar (char : Char) : List Char :=
  if char = '\x22' ∨ char = '\x5c' then ['\x5c', char]
  else if char = '\x00' then ['\x5c', '0']
  else if char = '\t' then ['\x5c', 't']
  else if char = '\n' then ['\x5c', 'n']
  else if char = '\r' then ['\x5c', 'r']
  else if isVisible char then [char]
  else ['\x5c', 'u', '\x7b'] ++ Nat.toDigits 16 char.toNat ++ ['\x7d']

def quote (text : List Char) : List Char :=
  ['\x22'] ++ text.flatMap quoteChar ++ ['\x22']

end DateAdjust.Text
