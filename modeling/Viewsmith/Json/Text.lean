/-!
# String literals of documents

A string literal is first divided into pieces: characters, and sixteen-bit units escaped by number.
Which texts the pieces spell is a second question, because units of surrogate pairs have to match;
a literal that is only passed over is never asked it.
-/

namespace Viewsmith.Json

/-- Why a document cannot be read on: it is malformed, or it ends too early. -/
inductive Fault : Type where
  | malformed
  | truncated
deriving DecidableEq, Repr

inductive Piece : Type where
  | char (c : Char)
  | unit (n : Nat)
deriving DecidableEq, Repr

/-- A string literal as written, up to its closing quote or to the fault that ends it. -/
structure Lexeme : Type where
  pieces : List Piece
  fault : Option Fault
deriving DecidableEq, Repr

def Lexeme.push (p : Piece) (l : Lexeme) : Lexeme := { l with pieces := p :: l.pieces }

/-! ## Reading -/

def hexValue? (c : Char) : Option Nat :=
  if c.isDigit then some (c.toNat - '0'.toNat)
  else if 'a' ≤ c ∧ c ≤ 'f' then some (c.toNat - 'a'.toNat + 10)
  else if 'A' ≤ c ∧ c ≤ 'F' then some (c.toNat - 'A'.toNat + 10)
  else none

/-- The unit that four hexadecimal digits write. -/
def unitValue? (a b c d : Char) : Option Nat := do
  let a ← hexValue? a
  let b ← hexValue? b
  let c ← hexValue? c
  let d ← hexValue? d
  return ((a * 16 + b) * 16 + c) * 16 + d

def simpleEscape? : Char → Option Char
  | '"' => some '"'
  | '\\' => some '\\'
  | '/' => some '/'
  | 'b' => some '\x08'
  | 'f' => some '\x0c'
  | 'n' => some '\n'
  | 'r' => some '\r'
  | 't' => some '\t'
  | _ => none

def byteCount : List Char → Nat
  | [] => 0
  | c :: rest => c.utf8Size + byteCount rest

/-- Reads a string literal after its opening quote; also gives what follows its closing quote. An
escape by number needs four bytes, or else the text has ended too early. -/
def scanString : List Char → Lexeme × List Char
  | [] => (⟨[], some .truncated⟩, [])
  | '"' :: rest => (⟨[], none⟩, rest)
  | '\\' :: 'u' :: a :: b :: c :: d :: rest =>
      match unitValue? a b c d with
      | none => (⟨[], some .malformed⟩, [])
      | some n =>
          let (lexeme, rest) := scanString rest
          (lexeme.push (.unit n), rest)
  | '\\' :: 'u' :: rest =>
      (⟨[], some (if byteCount rest < 4 then .truncated else .malformed)⟩, [])
  | '\\' :: e :: rest =>
      match simpleEscape? e with
      | none => (⟨[], some .malformed⟩, [])
      | some c =>
          let (lexeme, rest) := scanString rest
          (lexeme.push (.char c), rest)
  | ['\\'] => (⟨[], some .truncated⟩, [])
  | c :: rest =>
      if c.toNat < 0x20 then (⟨[], some .malformed⟩, [])
      else
        let (lexeme, rest) := scanString rest
        (lexeme.push (.char c), rest)

/-! ## Spelling -/

def isLeadingUnit (n : Nat) : Bool := 0xD800 ≤ n && n < 0xDC00

def isTrailingUnit (n : Nat) : Bool := 0xDC00 ≤ n && n < 0xE000

def pairChar (lead trail : Nat) : Char :=
  Char.ofNat ((lead - 0xD800) * 0x400 + (trail - 0xDC00) + 0x10000)

/-- The text that pieces spell. The fault that ends a literal is met after its pieces, except that
nothing but a trailing unit may follow a leading one. -/
def spell (fault : Option Fault) : List Piece → Except Fault (List Char)
  | [] =>
      match fault with
      | none => .ok []
      | some f => .error f
  | .char c :: rest => (spell fault rest).map (c :: ·)
  | .unit n :: rest =>
      if isTrailingUnit n then .error .malformed
      else if isLeadingUnit n then
        match rest with
        | .unit m :: rest =>
            if isTrailingUnit m then (spell fault rest).map (pairChar n m :: ·)
            else .error .malformed
        | .char _ :: _ => .error .malformed
        | [] => .error (fault.getD .malformed)
      else (spell fault rest).map (Char.ofNat n :: ·)

def Lexeme.text (l : Lexeme) : Except Fault String :=
  (spell l.fault l.pieces).map String.ofList

/-! ## Writing -/

def escapeChar (c : Char) : List Char :=
  if c = '"' ∨ c = '\\' then ['\\', c]
  else if c = '\x08' then ['\\', 'b']
  else if c = '\x0c' then ['\\', 'f']
  else if c = '\n' then ['\\', 'n']
  else if c = '\r' then ['\\', 'r']
  else if c = '\t' then ['\\', 't']
  else if c.toNat < 0x20 then
    ['\\', 'u', '0', '0', Nat.digitChar (c.toNat / 16), Nat.digitChar (c.toNat % 16)]
  else [c]

def quoted (text : String) : List Char := '"' :: text.toList.flatMap escapeChar ++ ['"']

end Viewsmith.Json
