import WorkBridge.Text.Printable

/-!
Texts between double quotes, as error messages show them.

A quote and a backslash get a backslash; tab, line feed, carriage return and the character
zero have short escapes; every other character that is not shown is written by its number.
-/

namespace WorkBridge.Text

def quotedChar (c : Char) : List Char :=
  if c = '"' then ['\\', '"']
  else if c = '\\' then ['\\', '\\']
  else if c = '\n' then ['\\', 'n']
  else if c = '\t' then ['\\', 't']
  else if c = '\r' then ['\\', 'r']
  else if c = '\x00' then ['\\', '0']
  else if isShown c then [c]
  else ['\\', 'u', '\x7b'] ++ Nat.toDigits 16 c.toNat ++ ['\x7d']

def quoted (s : String) : String :=
  String.ofList ('"' :: (s.toList.flatMap quotedChar ++ ['"']))

end WorkBridge.Text
