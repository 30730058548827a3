import Viewsmith.Json.Data

/-!
# Templates

A template is literal text with tags in double braces. A tag names a value of the context,
`{{path}}` or `{{{path}}}` or `{{&path}}`, or calls a helper on arguments, `{{helper argument}}`. A
tag that begins with an exclamation mark is a comment. A tag is read from left to right without
going back: what a rule has taken stays taken, even if the tag fails later for it.
-/

namespace Viewsmith

inductive Argument : Type where
  | path (path : String)
  | text (value : String)
  | scalar               -- a literal that is no text
deriving DecidableEq, Repr

inductive Segment : Type where
  | text (value : List Char)
  | value (path : String)
  | call (helper : String) (arguments : List Argument)
deriving DecidableEq, Repr

abbrev Template : Type := List Segment

namespace Template

/-! ## Names and paths -/

def isTagBlank (c : Char) : Bool := c = ' ' || c = '\t' || c = '\n' || c = '\r'

def skipBlanks (text : List Char) : List Char := text.dropWhile isTagBlank

def isNameChar (c : Char) : Bool :=
  c.isAlphanum || c = '_' || c = '$' || c = '-' || 0x80 ≤ c.toNat

def isPathSeparator (c : Char) : Bool := c = '.' || c = '/'

def pathNames (path : List Char) : List (List Char) := path.splitOnP isPathSeparator

def continuesName (text : List Char) : Bool := text.head?.any isNameChar

/-- Reads a name: all the characters of names that stand here. -/
def readName? (text : List Char) : Option (List Char × List Char) :=
  if continuesName text then some (text.span isNameChar) else none

/-- Splits a text after the names and separators that it begins with. A separator belongs to them
if a name follows it. -/
def spanPath : List Char → List Char × List Char
  | [] => ([], [])
  | c :: rest =>
      if isNameChar c || (isPathSeparator c && continuesName rest) then
        let (path, rest) := spanPath rest
        (c :: path, rest)
      else ([], c :: rest)

def readPath? (text : List Char) : Option (List Char × List Char) :=
  if continuesName text then some (spanPath text) else none

def dropWord? (word text : List Char) : Option (List Char) :=
  if word.isPrefixOf text then some (text.drop word.length) else none

/-! ## Arguments -/

/-- Reads a quoted text after its opening quote. Its escapes are those of a string literal of a
document, except that of the two quotes only its own can be escaped. -/
def scanQuoted (quote : Char) : List Char → Option (List Json.Piece × List Char)
  | [] => none
  | '\\' :: 'u' :: a :: b :: c :: d :: rest => do
      let unit ← Json.unitValue? a b c d
      let (pieces, rest) ← scanQuoted quote rest
      return (.unit unit :: pieces, rest)
  | '\\' :: e :: rest => do
      let c ← if e = quote then some e else if e = '"' then none else Json.simpleEscape? e
      let (pieces, rest) ← scanQuoted quote rest
      return (.char c :: pieces, rest)
  | c :: rest =>
      if c = quote then some ([], rest)
      else if c = '\\' ∨ c.toNat < 0x20 then none
      else do
        let (pieces, rest) ← scanQuoted quote rest
        return (.char c :: pieces, rest)

def readQuoted? (quote : Char) (text : List Char) : Option (Argument × List Char) := do
  let (pieces, rest) ← scanQuoted quote text
  let chars ← (Json.spell none pieces).toOption
  return (.text (String.ofList chars), rest)

def spanDigits (text : List Char) : List Char × List Char := text.span Char.isDigit

def spanMinus : List Char → List Char × List Char
  | '-' :: rest => (['-'], rest)
  | text => ([], text)

def spanExponent (text : List Char) : List Char × List Char :=
  match text with
  | 'E' :: rest =>
      let (sign, rest) := spanMinus rest
      let (digits, rest) := spanDigits rest
      if digits.isEmpty then ([], text) else ('E' :: sign ++ digits, rest)
  | _ => ([], text)

/-- Reads a numeral: digits with an optional minus, point and exponent. No name may go on after
it. -/
def readNumeral? (text : List Char) : Option (List Char × List Char) :=
  let (sign, rest) := spanMinus text
  let (whole, rest) := spanDigits rest
  let (fraction, rest) :=
    match rest with
    | '.' :: rest => let (digits, rest) := spanDigits rest; ('.' :: digits, rest)
    | _ => ([], rest)
  let (exponent, rest) := spanExponent rest
  if whole.isEmpty || continuesName rest then none
  else some (sign ++ whole ++ fraction ++ exponent, rest)

def literalWords : List (List Char) :=
  [['n', 'u', 'l', 'l'], ['t', 'r', 'u', 'e'], ['f', 'a', 'l', 's', 'e']]

/-- Reads a word that stands for a value; no name may go on after it. -/
def dropLiteralWord? (text : List Char) : Option (List Char) :=
  (literalWords.findSome? (dropWord? · text)).filter (!continuesName ·)

def elseWord : List Char := ['e', 'l', 's', 'e']

/-- Whether a keyword stands here in place of an argument: no name follows it, neither directly nor
after blanks. -/
def beginsKeyword (text : List Char) : Bool :=
  ([['a', 's'], elseWord].findSome? (dropWord? · text)).any fun rest =>
    !continuesName (skipBlanks rest)

/-- Reads an argument. What could be a literal is none of a path; a literal has to be a value of a
document. -/
def readArgument? (text : List Char) : Option (Argument × List Char) :=
  if beginsKeyword text then none
  else
    match text with
    | '"' :: rest => readQuoted? '"' rest
    | '\'' :: rest => readQuoted? '\'' rest
    | _ =>
        match readNumeral? text, dropLiteralWord? text with
        | some (numeral, rest), _ =>
            (Json.Data.parse (String.ofList numeral)).toOption.map fun _ => (.scalar, rest)
        | none, some rest => some (.scalar, rest)
        | none, none => (readPath? text).map fun (path, rest) => (.path (String.ofList path), rest)

/-- Reads all arguments that stand here, with blanks before them or not; `fuel` bounds their
number. -/
def readArguments : (fuel : Nat) → List Char → List Argument × List Char
  | 0, text => ([], text)
  | fuel + 1, text =>
      match readArgument? (skipBlanks text) with
      | none => ([], text)
      | some (argument, rest) =>
          let (arguments, rest) := readArguments fuel rest
          (argument :: arguments, rest)

/-! ## Tags -/

/-- The helper that turns a label into a component name. -/
def pascalHelper : String := "pascal_case"

/-- The segment of a path that stands alone in a tag: a call if it names a helper. -/
def pathSegment (path : List Char) : Segment :=
  let path := String.ofList path
  if path = pascalHelper then .call path [] else .value path

def readSegment? (text : List Char) : Option (Segment × List Char) := do
  let (name, rest) ← readName? text
  match readArguments rest.length rest with
  | ([], _) => do
      let (path, rest) ← readPath? text
      return (pathSegment path, rest)
  | (arguments, rest) => return (.call (String.ofList name) arguments, rest)

def readClose? (close text : List Char) : Option (List Char) := dropWord? close (skipBlanks text)

def doubleClose : List Char := ['}', '}']

/-- Whether a tag opens an alternative: `else` stands first, alone or with a name and its arguments,
from which it need not be divided. Alternatives belong to blocks, which templates do not have. -/
def isAlternative (text : List Char) : Bool :=
  match dropWord? elseWord (skipBlanks text) with
  | none => false
  | some rest =>
      (readClose? doubleClose rest).isSome
        || (readName? (skipBlanks rest)).any fun (_, rest) =>
          (readClose? doubleClose (readArguments rest.length rest).2).isSome

def afterMarker? (marker : List Char) : List Char → Option (List Char)
  | [] => if marker.isEmpty then some [] else none
  | c :: rest =>
      if marker.isPrefixOf (c :: rest) then some ((c :: rest).drop marker.length)
      else afterMarker? marker rest

/-- Reads a comment after its exclamation mark and gives what follows it. A comment that begins with
two dashes ends with two dashes, if these occur. -/
def skipComment? (text : List Char) : Option (List Char) :=
  let long :=
    match skipBlanks text with
    | '-' :: '-' :: rest => afterMarker? "--\x7d\x7d".toList rest
    | _ => none
  long.or (afterMarker? "\x7d\x7d".toList text)

/-- Reads a tag that is no comment after its two opening braces: its segment and what follows. A
third brace has to be closed too. After an ampersand only a path may stand. -/
def readValueTag? (text : List Char) : Option (Segment × List Char) :=
  match skipBlanks text with
  | '{' :: rest => do
      let (segment, rest) ← readSegment? (skipBlanks rest)
      let rest ← readClose? ['}'] rest
      let rest ← readClose? doubleClose rest
      return (segment, rest)
  | '&' :: rest => do
      let (path, rest) ← readPath? (skipBlanks rest)
      let rest ← readClose? doubleClose rest
      return (pathSegment path, rest)
  | text =>
      if isAlternative text then none
      else do
        let (segment, rest) ← readSegment? text
        let rest ← readClose? doubleClose rest
        return (segment, rest)

/-- Reads a tag after its two opening braces: its segment, unless it is a comment, and what follows.
The mark of a comment directly follows the braces. -/
def readTag? : List Char → Option (List Segment × List Char)
  | '!' :: rest => (skipComment? rest).map fun rest => ([], rest)
  | text => (readValueTag? text).map fun (segment, rest) => ([segment], rest)

def opensTag (text : List Char) : Bool := ['{', '{'].isPrefixOf text

/-- Splits a text at its first tag: the literal text before it, and what follows its two opening
braces. One backslash before opening braces, two or four of them, makes them literal text; of
several backslashes before a tag one is dropped. -/
def splitAtTag : List Char → List Char × Option (List Char)
  | [] => ([], none)
  | '{' :: '{' :: rest => ([], some rest)
  | '\\' :: '{' :: '{' :: '{' :: '{' :: rest =>
      let (before, after) := splitAtTag rest
      ('{' :: '{' :: '{' :: '{' :: before, after)
  | '\\' :: '{' :: '{' :: rest =>
      let (before, after) := splitAtTag rest
      ('{' :: '{' :: before, after)
  | c :: rest =>
      let (slashes, tag) := rest.span (· = '\\')
      if c = '\\' && opensTag tag then (slashes, some (tag.drop 2))
      else
        let (before, after) := splitAtTag rest
        (c :: before, after)

/-- Reads segments; `fuel` bounds the number of tags. -/
def readSegments? : Nat → List Char → Option Template
  | 0, _ => none
  | fuel + 1, text =>
      let (before, after) := splitAtTag text
      let literal : Template := if before.isEmpty then [] else [.text before]
      match after with
      | none => some literal
      | some after => do
          let (segments, rest) ← readTag? after
          let more ← readSegments? fuel rest
          return literal ++ segments ++ more

def ofChars? (text : List Char) : Option Template := readSegments? (text.length + 1) text

def parse? (text : String) : Option Template := ofChars? text.toList

end Template

end Viewsmith
