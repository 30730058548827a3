import Viewsmith.Json.Numeral
import Viewsmith.Json.Text

/-!
# Values of a document

The reader turns any text into a tree. Where the text is malformed or ends too early the tree says
so at that place and holds nothing beyond it, so a consumer that goes through the tree in order
meets the first problem of the text first, be it a fault of the text or a value that it does not
want. Numerals and string literals are kept as written.
-/

namespace Viewsmith.Json

/-- How a list of items or members ends. -/
inductive Ending : Type where
  | closed                       -- with its closing bracket
  | interrupted                  -- the fault lies in the last entry
  | unclosed (fault : Fault)     -- neither a comma nor the closing bracket follows
  | afterComma (fault : Fault)   -- a comma, and then no entry
  | notAKey                      -- a member that does not begin with a string literal
deriving DecidableEq, Repr

inductive Value : Type where
  | null
  | bool (b : Bool)
  | number (numeral : Numeral)
  | string (lexeme : Lexeme)
  | array (items : List Value) (ending : Ending)
  | object (members : List (Lexeme × Value)) (ending : Ending)
  | absent                       -- the text ends before the value begins
  | cutNumeral                   -- the text ends inside a numeral
  | unreadable (fault : Fault)   -- something begins here that is no value

/-! ## Reading

Every call of the reader either consumes a character or stops, so twice the length of the text is
fuel enough.
-/

def isBlank (c : Char) : Bool := c = ' ' || c = '\n' || c = '\t' || c = '\r'

def skipBlanks (text : List Char) : List Char := text.dropWhile isBlank

def scanWord (value : Value) : List Char → List Char → Value × Option (List Char)
  | [], text => (value, some text)
  | _ :: _, [] => (.unreadable .truncated, none)
  | c :: word, d :: text =>
      if c = d then scanWord value word text else (.unreadable .malformed, none)

/-- What stands where an entry or the end of a list may follow. -/
inductive Step : Type where
  | close (rest : List Char)
  | entry (text : List Char)
  | stop (ending : Ending)

def firstStep (close : Char) (text : List Char) : Step :=
  match skipBlanks text with
  | [] => .stop (.unclosed .truncated)
  | c :: rest => if c = close then .close rest else .entry (c :: rest)

def nextStep (close : Char) (text : List Char) : Step :=
  match skipBlanks text with
  | [] => .stop (.unclosed .truncated)
  | c :: rest =>
      if c = close then .close rest
      else if c = ',' then
        match skipBlanks rest with
        | [] => .stop (.afterComma .truncated)
        | d :: more =>
            if d = close then .stop (.afterComma .malformed) else .entry (d :: more)
      else .stop (.unclosed .malformed)

mutual
/-- Reads a value; also gives what follows it, unless reading stopped inside. -/
def readValue : Nat → List Char → Value × Option (List Char)
  | 0, _ => (.absent, none)
  | fuel + 1, text =>
      match skipBlanks text with
      | [] => (.absent, none)
      | 'n' :: rest => scanWord .null ['u', 'l', 'l'] rest
      | 't' :: rest => scanWord (.bool true) ['r', 'u', 'e'] rest
      | 'f' :: rest => scanWord (.bool false) ['a', 'l', 's', 'e'] rest
      | '"' :: rest =>
          let (lexeme, rest) := scanString rest
          (.string lexeme, if lexeme.fault.isNone then some rest else none)
      | '[' :: rest =>
          let (items, ending, rest) := readItems fuel (firstStep ']' rest)
          (.array items ending, rest)
      | '{' :: rest =>
          let (members, ending, rest) := readMembers fuel (firstStep '}' rest)
          (.object members ending, rest)
      | c :: rest =>
          if c = '-' ∨ c.isDigit then
            match scanNumeral (c :: rest) with
            | .read numeral rest => (.number numeral, some rest)
            | .malformed => (.unreadable .malformed, none)
            | .cut => (.cutNumeral, none)
          else (.unreadable .malformed, none)

def readItems : Nat → Step → List Value × Ending × Option (List Char)
  | _, .close rest => ([], .closed, some rest)
  | _, .stop ending => ([], ending, none)
  | 0, .entry _ => ([], .interrupted, none)
  | fuel + 1, .entry text =>
      match readValue fuel text with
      | (value, none) => ([value], .interrupted, none)
      | (value, some rest) =>
          let (items, ending, rest) := readItems fuel (nextStep ']' rest)
          (value :: items, ending, rest)

def readMembers : Nat → Step → List (Lexeme × Value) × Ending × Option (List Char)
  | _, .close rest => ([], .closed, some rest)
  | _, .stop ending => ([], ending, none)
  | 0, .entry _ => ([], .interrupted, none)
  | fuel + 1, .entry text =>
      match text with
      | '"' :: rest =>
          let (key, rest) := scanString rest
          if key.fault.isSome then ([(key, .absent)], .interrupted, none)
          else
            match skipBlanks rest with
            | [] => ([(key, .absent)], .interrupted, none)
            | ':' :: rest =>
                match readValue fuel rest with
                | (value, none) => ([(key, value)], .interrupted, none)
                | (value, some rest) =>
                    let (members, ending, rest) := readMembers fuel (nextStep '}' rest)
                    ((key, value) :: members, ending, rest)
            | _ => ([(key, .unreadable .malformed)], .interrupted, none)
      | _ => ([], .notAKey, none)
end

/-- Reads the value at the start of a text. -/
def readPrefixValue (text : List Char) : Value × Option (List Char) :=
  readValue (2 * text.length + 2) text

/-! ## Passing over values -/

/-- What a consumer meets at the end of a list all of whose entries it has accepted. -/
def Ending.check : Ending → Except Fault Unit
  | .closed => .ok ()
  | .interrupted => .error .truncated
  | .unclosed fault => .error fault
  | .afterComma fault => .error fault
  | .notAKey => .error .malformed

/-- What a consumer meets in a string literal that it passes over. -/
def Lexeme.skip (l : Lexeme) : Except Fault Unit :=
  match l.fault with
  | none => .ok ()
  | some fault => .error fault

mutual
/-- Passes over a value without asking for its meaning: numerals may be out of range, surrogates
unpaired and lists nested at will. A numeral that the text cuts off is a malformed one here. -/
def Value.skip : Value → Except Fault Unit
  | .null | .bool _ | .number _ => .ok ()
  | .string lexeme => lexeme.skip
  | .array items ending => do skipItems items; ending.check
  | .object members ending => do skipMembers members; ending.check
  | .absent => .error .truncated
  | .cutNumeral => .error .malformed
  | .unreadable fault => .error fault

def skipItems : List Value → Except Fault Unit
  | [] => .ok ()
  | value :: rest => do value.skip; skipItems rest

def skipMembers : List (Lexeme × Value) → Except Fault Unit
  | [] => .ok ()
  | (key, value) :: rest => do key.skip; value.skip; skipMembers rest
end

end Viewsmith.Json
