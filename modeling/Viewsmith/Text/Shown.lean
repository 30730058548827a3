import Viewsmith.Unicode.Printable

/-!
# Texts shown in messages

A message shows a text between double quotes. Quotes and backslashes are escaped, and so is every
character that could not be seen or would fuse with its neighbour.
-/

namespace Viewsmith.Shown

open Unicode

/-- The escape of a code point in lower-case hexadecimal. -/
def codePointEscape (c : Char) : List Char :=
  ['\\', 'u', '{'] ++ Nat.toDigits 16 c.toNat ++ ['}']

def showChar (c : Char) : List Char :=
  if c = '\x00' then ['\\', '0']
  else if c = '\t' then ['\\', 't']
  else if c = '\r' then ['\\', 'r']
  else if c = '\n' then ['\\', 'n']
  else if c = '"' ∨ c = '\\' then ['\\', c]
  else if isGraphemeExtend c then codePointEscape c
  else if isPrintable c then [c]
  else codePointEscape c

def quote (text : String) : String :=
  String.ofList ('"' :: text.toList.flatMap showChar ++ ['"'])

end Viewsmith.Shown
