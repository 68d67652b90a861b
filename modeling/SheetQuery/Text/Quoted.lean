import SheetQuery.Text.Printable

/-!
# Quoted texts

A text as messages show it: between double quotes, with a backslash in front of quotes and backslashes,
and with characters that cannot be shown as they are written by their code point.
-/

namespace SheetQuery.Text

def quotedChar (c : Char) : Text :=
  if c = '"' then ['\\', '"']
  else if c = '\\' then ['\\', '\\']
  else if c = '\n' then ['\\', 'n']
  else if c = '\r' then ['\\', 'r']
  else if c = '\t' then ['\\', 't']
  else if c.toNat = 0 then ['\\', '0']
  else if isPrintable c then [c]
  else ['\\', 'u', '\x7b'] ++ hexadecimal c.toNat ++ ['\x7d']

def quoted (s : Text) : Text := '"' :: s.flatMap quotedChar ++ ['"']

def quotedList (parts : List Text) : Text :=
  '[' :: joinWith [',', ' '] (parts.map quoted) ++ [']']

end SheetQuery.Text
