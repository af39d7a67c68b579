import ServiceProbe.Text.Unseen

/-!
# Texts quoted in a message

A message shows a text between double quotes. Quotes and backslashes, line breaks, tabs and the null
character have short escapes; a character that would not be seen, or that would join the one before it,
is written as its code point in braces.
-/

namespace ServiceProbe.Text

/-- The character is not shown as it is: it would not be seen, or it would join the character before it. -/
def isHidden (c : Char) : Bool :=
  isUnseen c || isExtending c

/-- One character between the quotes. -/
def quoteChar (c : Char) : List Char :=
  if c = '"' then ['\\', '"']
  else if c = '\\' then ['\\', '\\']
  else if c = '\n' then ['\\', 'n']
  else if c = '\x0d' then ['\\', 'r']
  else if c = '\t' then ['\\', 't']
  else if c = '\x00' then ['\\', '0']
  else if isHidden c then
    ['\\', 'u', '\x7b'] ++ Nat.toDigits 16 c.toNat ++ ['\x7d']
  else [c]

/-- The text between quotes. -/
def quoted (s : String) : String :=
  "\"" ++ String.ofList (s.toList.flatMap quoteChar) ++ "\""

end ServiceProbe.Text
