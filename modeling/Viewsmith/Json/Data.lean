import Viewsmith.Decimal.Format
import Viewsmith.Json.Value

/-!
# Data of a document

A value is read for its meaning within a nesting limit: the number of lists that may still be
opened, plus one. Every list opened lowers the limit, and at zero the text counts as malformed.
-/

namespace Viewsmith.Json

/-- The meaning of a value. The members of an object keep their order and their repetitions. -/
inductive Data : Type where
  | null
  | bool (b : Bool)
  | number (n : Number)
  | string (s : String)
  | array (items : List Data)
  | object (members : List (String × Data))

/-- The nesting limit of a document: 127 lists may be open at once. -/
def nestingLimit : Nat := 128

/-- The limit inside a list that is opened under a limit, if it may be opened. -/
def enter : Nat → Except Fault Nat
  | limit + 2 => .ok (limit + 1)
  | _ => .error .malformed

mutual
def Value.data (limit : Nat) : Value → Except Fault Data
  | .null => .ok .null
  | .bool b => .ok (.bool b)
  | .number numeral =>
      match numeral.value? with
      | some n => .ok (.number n)
      | none => .error .malformed
  | .string lexeme => lexeme.text.map .string
  | .array items ending => do
      let inner ← enter limit
      let items ← itemsData inner items
      ending.check
      return .array items
  | .object members ending => do
      let inner ← enter limit
      let members ← membersData inner members
      ending.check
      return .object members
  | .absent => .error .truncated
  | .cutNumeral => .error .truncated
  | .unreadable fault => .error fault

def itemsData (limit : Nat) : List Value → Except Fault (List Data)
  | [] => .ok []
  | value :: rest => do
      let item ← value.data limit
      let items ← itemsData limit rest
      return item :: items

def membersData (limit : Nat) : List (Lexeme × Value) → Except Fault (List (String × Data))
  | [] => .ok []
  | (key, value) :: rest => do
      let key ← key.text
      let value ← value.data limit
      let members ← membersData limit rest
      return (key, value) :: members
end

def Number.text : Number → String
  | .natural n => toString n
  | .negative n => "-" ++ toString n
  | .real x => Decimal.documentText x

/-- What may follow a document: blanks only. -/
def checkEnd (rest : Option (List Char)) : Except Fault Unit :=
  if (skipBlanks (rest.getD [])).isEmpty then .ok () else .error .malformed

/-- The meaning of a whole document, without regard to nesting. -/
def Data.parse (text : String) : Except Fault Data := do
  let (value, rest) := readPrefixValue text.toList
  let data ← value.data (text.length + 2)
  checkEnd rest
  return data

end Viewsmith.Json
