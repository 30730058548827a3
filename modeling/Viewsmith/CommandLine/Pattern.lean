import Viewsmith.Json.Text
import Viewsmith.Unicode.Numbers

/-!
# Patterns of field values

A log filter may compare the value of a field with a regular expression. Whether a text is such an
expression can be told in one walk: groups and bracketed classes are closed, escapes are known, and
what is repeated is there. A filter ends a value at a comma or a closing brace, so no count in
braces can ever be complete.
-/

namespace Viewsmith.Pattern

open Unicode

/-! ## Modes -/

/-- The modes in force at a place of a pattern. They may be changed for the rest of a group. -/
structure Modes : Type where
  spaced : Bool := false   -- blanks and comments are passed over
  unicode : Bool := true   -- characters are matched, not bytes
deriving DecidableEq, Repr

/-- Drops blanks and comments. A comment ends with its line. -/
def dropSpacing : (comment : Bool) → List Char → List Char
  | _, [] => []
  | true, c :: rest => dropSpacing (c ≠ '\n') rest
  | false, c :: rest =>
      if isWhitespace c then dropSpacing false rest
      else if c = '#' then dropSpacing true rest
      else c :: rest

def Modes.skip (m : Modes) (text : List Char) : List Char :=
  if m.spaced then dropSpacing false text else text

def modeLetters : List Char := ['i', 'm', 's', 'U', 'u', 'R', 'x']

def Modes.switch (m : Modes) (on : Bool) (letter : Char) : Modes :=
  if letter = 'x' then { m with spaced := on }
  else if letter = 'u' then { m with unicode := on }
  else m

/-- Reads letters of modes up to the colon or parenthesis after them; letters after a dash are
switched off. Also gives what has been read, last first. No letter may stand twice, and a dash has
to be followed by one. -/
def readModes? (m : Modes) (read : List Char) : List Char → Option (Modes × List Char × List Char)
  | [] => none
  | c :: rest =>
      if c = ':' ∨ c = ')' then
        if read.head? = some '-' then none else some (m, read, c :: rest)
      else if read.contains c then none
      else if c = '-' then readModes? m (c :: read) rest
      else if modeLetters.contains c then
        readModes? (m.switch (!read.contains '-') c) (c :: read) rest
      else none

/-! ## Escapes -/

inductive Item : Type where
  | literal (c : Char)
  | set                  -- one of several characters
  | anchor               -- a place between characters
deriving DecidableEq, Repr

def readHex? (m : Modes) : (count value : Nat) → List Char → Option (Nat × List Char)
  | 0, value, text => some (value, text)
  | count + 1, value, text =>
      match m.skip text with
      | [] => none
      | c :: rest => do
          let digit ← Json.hexValue? c
          readHex? m count (value * 16 + digit) rest

/-- How many hexadecimal digits an escape letter takes. -/
def hexDigits? : Char → Option Nat
  | 'x' => some 2
  | 'u' => some 4
  | 'U' => some 8
  | _ => none

def controlEscape? : Char → Option Char
  | 'a' => some '\x07'
  | 'f' => some '\x0c'
  | 'n' => some '\n'
  | 'r' => some '\r'
  | 't' => some '\t'
  | 'v' => some '\x0b'
  | _ => none

def categoryLetters : List Char := ['C', 'L', 'M', 'N', 'P', 'S', 'Z']

/-- Reads an escape after its backslash. Word boundaries are known among bytes only; there, negated
sets and bytes beyond ASCII would match parts of characters. -/
def readEscape? (m : Modes) : List Char → Option (Item × List Char)
  | [] => none
  | c :: rest =>
      match hexDigits? c, controlEscape? c with
      | some count, _ => do
          let (value, rest) ← readHex? m count 0 rest
          let d := Char.ofNat value
          if d.toNat ≠ value then none
          else if !m.unicode && c = 'x' && 0x80 ≤ value then none
          else return (.literal d, rest)
      | none, some d => some (.literal d, rest)
      | none, none =>
          if c = 'p' ∨ c = 'P' then
            match m.skip rest with
            | [] => none
            | d :: rest =>
                if m.unicode && categoryLetters.contains d.toUpper then some (.set, rest) else none
          else if ['d', 's', 'w'].contains c then some (.set, rest)
          else if ['D', 'S', 'W'].contains c then
            if m.unicode then some (.set, rest) else none
          else if c = 'A' ∨ c = 'z' then some (.anchor, rest)
          else if ['b', 'B', '<', '>'].contains c then
            if m.unicode then none else some (.anchor, rest)
          else if c.toNat < 0x80 && !c.isAlphanum then some (.literal c, rest)
          else none

/-! ## Bracketed classes -/

def readMember? (m : Modes) : List Char → Option (Item × List Char)
  | [] => none
  | c :: rest => do
      let (item, rest) ← if c = '\\' then readEscape? m rest else some (.literal c, rest)
      match item with
      | .anchor => none
      | .literal d => if !m.unicode && 0x80 ≤ d.toNat then none else return (item, rest)
      | .set => return (item, rest)

/-- Reads an item of a class or a range between two items, which have to be characters in order. A
dash before another dash or before the closing bracket makes no range. -/
def readRange? (m : Modes) (text : List Char) : Option (List Char) := do
  let (first, rest) ← readMember? m text
  match m.skip rest with
  | '-' :: more =>
      match m.skip more with
      | ']' :: _ | '-' :: _ => return '-' :: more
      | more =>
          let (last, rest) ← readMember? m more
          match first, last with
          | .literal a, .literal b => if a ≤ b then return rest else none
          | _, _ => none
  | rest => return rest

/-- Drops dashes; `fuel` bounds their number. -/
def dropDashes (m : Modes) : (fuel : Nat) → List Char → List Char
  | fuel + 1, '-' :: rest => dropDashes m fuel (m.skip rest)
  | _, text => text

/-- Reads the beginning of a class after its opening bracket: a caret, dashes, or else a closing
bracket that stands for itself. Among bytes no class may be negated. -/
def openClass? (m : Modes) (text : List Char) : Option (List Char) :=
  let (negated, text) :=
    match m.skip text with
    | '^' :: rest => (true, m.skip rest)
    | text => (false, text)
  if negated && !m.unicode then none
  else
    match text with
    | ']' :: rest => some rest
    | text => some (dropDashes m text.length text)

/-- Reads a class up to its closing bracket, inside a number of other classes. -/
def readClass? (m : Modes) : (fuel depth : Nat) → List Char → Option (List Char)
  | 0, _, _ => none
  | fuel + 1, depth, text =>
      match m.skip text, depth with
      | [], _ => none
      | ']' :: rest, 0 => some rest
      | ']' :: rest, depth + 1 => readClass? m fuel depth rest
      | '[' :: rest, depth => (openClass? m rest).bind (readClass? m fuel (depth + 1))
      | '&' :: '&' :: rest, depth | '-' :: '-' :: rest, depth | '~' :: '~' :: rest, depth =>
          readClass? m fuel depth rest
      | text, depth => (readRange? m text).bind (readClass? m fuel depth)

/-! ## Groups -/

structure Progress : Type where
  modes : Modes := {}
  outer : List Modes := []         -- of the places where the open groups began
  names : List (List Char) := []   -- of groups
  repeatable : Bool := false       -- whether something stands here that can be repeated
deriving DecidableEq, Repr

def Progress.afterItem (p : Progress) : Progress := { p with repeatable := true }

def Progress.enter (p : Progress) (m : Modes) : Progress :=
  { p with modes := m, outer := p.modes :: p.outer, repeatable := false }

def Progress.leave? (p : Progress) : Option Progress :=
  match p.outer with
  | [] => none
  | m :: outer => some { p with modes := m, outer := outer, repeatable := true }

def isGroupName : List Char → Bool
  | [] => false
  | c :: rest =>
      (c = '_' || isAlphabetic c)
        && rest.all fun d => ['_', '.', '[', ']'].contains d || isAlphabetic d || isNumeric d

/-- Reads the rest of the name of a group and begins the group. -/
def Progress.named? (p : Progress) (text : List Char) : Option (Progress × List Char) :=
  let name := text.takeWhile (· ≠ '>')
  match text.dropWhile (· ≠ '>') with
  | [] => none
  | _ :: rest =>
      if isGroupName name && !p.names.contains name then
        some ({ p.enter p.modes with names := name :: p.names }, rest)
      else none

/-- Reads what follows an opening parenthesis: a name, modes for the group or for the rest of the
group outside, or nothing. -/
def Progress.open? (p : Progress) (text : List Char) : Option (Progress × List Char) :=
  match p.modes.skip text with
  | '?' :: 'P' :: '<' :: rest | '?' :: '<' :: rest => p.named? rest
  | '?' :: rest => do
      match ← readModes? p.modes [] rest with
      | (m, _, ':' :: rest) => return (p.enter m, rest)
      | (_, [], _) => none
      | (m, _, rest) => return ({ p with modes := m, repeatable := false }, rest.drop 1)
  | text => some (p.enter p.modes, text)

/-! ## Patterns -/

def Progress.completes (p : Progress) : (fuel : Nat) → List Char → Bool
  | 0, _ => false
  | fuel + 1, text =>
      match p.modes.skip text with
      | [] => p.outer.isEmpty
      | '(' :: rest => (p.open? rest).any fun (p, rest) => p.completes fuel rest
      | ')' :: rest => p.leave?.any (·.completes fuel rest)
      | '|' :: rest => { p with repeatable := false }.completes fuel rest
      | '[' :: rest =>
          ((openClass? p.modes rest).bind (readClass? p.modes rest.length 0)).any
            (p.afterItem.completes fuel)
      | '\\' :: rest => (readEscape? p.modes rest).any fun r => p.afterItem.completes fuel r.2
      | '.' :: rest => p.modes.unicode && p.afterItem.completes fuel rest
      | '{' :: _ => false
      | c :: rest =>
          if ['?', '*', '+'].contains c then
            let rest := if rest.head? = some '?' then rest.drop 1 else rest
            p.repeatable && p.completes fuel rest
          else p.afterItem.completes fuel rest

def isWellFormed (text : List Char) : Bool := ({} : Progress).completes (text.length + 1) text

end Viewsmith.Pattern
