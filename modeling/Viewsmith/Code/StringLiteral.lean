import Viewsmith.Settings.Options

/-!
# String literals of generated code

A string literal ends at the first quote that is not escaped, and never spans lines: every line
terminator is escaped, the Unicode ones included.
-/

namespace Viewsmith

def escapeInCode (quote c : Char) : List Char :=
  if c = '\\' then ['\\', '\\']
  else if c = '\n' then ['\\', 'n']
  else if c = '\r' then ['\\', 'r']
  else if c = '\t' then ['\\', 't']
  else if c = Char.ofNat 0x2028 then ['\\', 'u', '2', '0', '2', '8']
  else if c = Char.ofNat 0x2029 then ['\\', 'u', '2', '0', '2', '9']
  else if c = quote then ['\\', c]
  else [c]

def stringLiteral (style : QuoteStyle) (text : List Char) : List Char :=
  style.char :: text.flatMap (escapeInCode style.char) ++ [style.char]

end Viewsmith
