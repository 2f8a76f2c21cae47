import Workflow.Text.Hidden

/-!
# Texts quoted for a reader

`quoted` puts a text between double quotes so that every character of it can be seen: the quote and
the backslash are escaped, so are the usual controls, and a character that does not show as itself
is written as its code point.
-/

namespace Workflow.Text

/-- One character inside double quotes. -/
def shown (c : Char) : List Char :=
  if c = '"' then ['\\', '"']
  else if c = '\\' then ['\\', '\\']
  else if c = '\n' then ['\\', 'n']
  else if c = '\r' then ['\\', 'r']
  else if c = '\t' then ['\\', 't']
  else if c.toNat = 0 then ['\\', '0']
  else if isHidden c then
    ['\\', 'u', '\x7b'] ++ Nat.toDigits 16 c.toNat ++ ['\x7d']
  else [c]

/-- A text between double quotes, with every character of it visible. -/
def quoted (s : String) : String :=
  String.ofList ('"' :: (s.toList.flatMap shown ++ ['"']))

end Workflow.Text
