import Viewsmith.Json.Error
import Viewsmith.OrderedMap

/-!
# Decoders

A decoder reads a value as a value of some type, under a nesting limit, and reports the first
problem in reading order. A record may be written as an object of its fields in any order, or as an
array of them in their order; unknown members are passed over.
-/

namespace Viewsmith.Json

abbrev Decoded (α : Type) : Type := Except DecodeError α

/-- A decoder: from a nesting limit and a value. -/
abbrev Decoder (α : Type) : Type := Nat → Value → Decoded α

def liftFault {α : Type} : Except Fault α → Decoded α
  | .ok x => .ok x
  | .error f => .error (.fault f)

/-- The error for a value of the wrong kind. The value is read first as far as its kind needs, and
a fault met there comes first. -/
def wrongKind {α : Type} (expected : String) (v : Value) : Decoded α :=
  let found : Except Fault Found :=
    match v with
    | .null => .ok .null
    | .bool b => .ok (.bool b)
    | .number numeral =>
        match numeral.value? with
        | some n => .ok (.number n)
        | none => .error .malformed
    | .string lexeme => lexeme.text.map .string
    | .array _ _ => .ok .sequence
    | .object _ _ => .ok .map
    | .absent => .error .truncated
    | .cutNumeral => .error .truncated
    | .unreadable fault => .error fault
  match found with
  | .ok found => .error (.mismatch (.wrongKind found expected))
  | .error fault => .error (.fault fault)

/-! ## Scalars -/

def string : Decoder String
  | _, .string lexeme => liftFault lexeme.text
  | _, v => wrongKind "a string" v

def boolean : Decoder Bool
  | _, .bool b => .ok b
  | _, v => wrongKind "a boolean" v

/-- Decodes a natural number of 64 bits. -/
def size : Decoder Nat
  | _, .number numeral =>
      match numeral.value? with
      | some (.natural n) => .ok n
      | some (.negative n) => .error (.mismatch (.outOfRange (.number (.negative n)) "usize"))
      | _ => wrongKind "usize" (.number numeral)
  | _, v => wrongKind "usize" v

/-- Decodes one of a list of named values. The name may stand alone or be the only key of an object
whose value is null. -/
def oneOf {α : Type} (name : α → String) (all : List α) : Decoder α :=
  let named (lexeme : Lexeme) : Decoded α := do
    let text ← liftFault lexeme.text
    match all.find? fun x => name x = text with
    | some x => .ok x
    | none => .error (.mismatch (.unknownVariant text (all.map name)))
  fun limit v =>
    match v with
    | .string lexeme => named lexeme
    | .object members ending => do
        let _ ← liftFault (enter limit)
        match members, ending with
        | [], .unclosed fault => .error (.fault fault)
        | [], _ => .error (.fault .malformed)
        | (key, value) :: more, ending =>
            let x ← named key
            match value with
            | .null => pure ()
            | _ => wrongKind "unit" value
            match more, ending with
            | [], .closed => .ok x
            | [], .unclosed fault => .error (.fault fault)
            | _, _ => .error (.fault .malformed)
    | .absent => .error (.fault .truncated)
    | _ => .error (.fault .malformed)

def optional {α : Type} (decode : Decoder α) : Decoder (Option α)
  | _, .null => .ok none
  | limit, v => (decode limit v).map some

/-! ## Lists and maps -/

def sequence {α : Type} (decode : Decoder α) : Decoder (List α)
  | limit, .array items ending => do
      let inner ← liftFault (enter limit)
      let items ← items.mapM (decode inner)
      liftFault ending.check
      return items
  | _, v => wrongKind "a sequence" v

def mapMembers {α : Type} (decode : Value → Decoded α) :
    OrderedMap α → List (Lexeme × Value) → Decoded (OrderedMap α)
  | m, [] => .ok m
  | m, (key, value) :: rest => do
      let key ← liftFault key.text
      let value ← decode value
      mapMembers decode (m.insert key value) rest

def orderedMap {α : Type} (decode : Decoder α) : Decoder (OrderedMap α)
  | limit, .object members ending => do
      let inner ← liftFault (enter limit)
      let m ← mapMembers (decode inner) .empty members
      liftFault ending.check
      return m
  | _, v => wrongKind "a map" v

/-! ## Records -/

/-- A field of a record. A field with a default may be left out. -/
structure Field : Type 1 where
  name : String
  type : Type
  decode : Decoder type
  default? : Option type

/-- The fields of a record that have been read so far. -/
def Slots : List Field → Type
  | [] => Unit
  | f :: fs => Option f.type × Slots fs

def Fields : List Field → Type
  | [] => Unit
  | f :: fs => f.type × Fields fs

def Slots.empty : (fs : List Field) → Slots fs
  | [] => ()
  | _ :: fs => (none, Slots.empty fs)

/-- Reads a member into its slot. The second member of one name is an error before its value is
read; a member that is no field is passed over. -/
def Slots.read (limit : Nat) (key : String) (value : Value) :
    (fs : List Field) → Slots fs → Decoded (Slots fs)
  | [], () => liftFault value.skip
  | f :: fs, (slot, rest) =>
      if f.name = key then
        match slot with
        | some _ => .error (.mismatch (.duplicateField f.name))
        | none => do
            let x ← f.decode limit value
            return (some x, rest)
      else do
        let rest ← Slots.read limit key value fs rest
        return (slot, rest)

def Slots.readAll (limit : Nat) (fs : List Field) :
    Slots fs → List (Lexeme × Value) → Decoded (Slots fs)
  | slots, [] => .ok slots
  | slots, (key, value) :: rest => do
      let key ← liftFault key.text
      let slots ← Slots.read limit key value fs slots
      Slots.readAll limit fs slots rest

/-- Fills the slots that are still empty with defaults. -/
def Slots.complete : (fs : List Field) → Slots fs → Decoded (Fields fs)
  | [], () => .ok ()
  | f :: fs, (slot, rest) =>
      match slot.or f.default? with
      | none => .error (.mismatch (.missingField f.name))
      | some x => do
          let rest ← Slots.complete fs rest
          return (x, rest)

/-- Reads the fields of a record in order from the items of an array; `count` is the number of
fields before. Items may run out where defaults remain, but none may be left over. -/
def Fields.readItems (limit : Nat) (expected : String) (ending : Ending) :
    (fs : List Field) → Nat → List Value → Decoded (Fields fs)
  | [], _, items =>
      match items, ending with
      | [], .closed => .ok ()
      | [], .unclosed fault => .error (.fault fault)
      | _, _ => .error (.fault .malformed)
  | f :: fs, count, [] => do
      liftFault ending.check
      match f.default? with
      | none => .error (.mismatch (.wrongLength count expected))
      | some x => do
          let rest ← Fields.readItems limit expected ending fs (count + 1) []
          return (x, rest)
  | f :: fs, count, value :: items => do
      let x ← f.decode limit value
      let rest ← Fields.readItems limit expected ending fs (count + 1) items
      return (x, rest)

def elementsPhrase (what : String) (count : Nat) : String :=
  what ++ " with " ++ toString count ++ (if count = 1 then " element" else " elements")

/-- Decodes a record that can only be written as an array. -/
def tuple (what : String) (fs : List Field) : Decoder (Fields fs)
  | limit, .array items ending => do
      let inner ← liftFault (enter limit)
      Fields.readItems inner (elementsPhrase what fs.length) ending fs 0 items
  | _, v => wrongKind what v

def record (what : String) (fs : List Field) : Decoder (Fields fs)
  | limit, .object members ending => do
      let inner ← liftFault (enter limit)
      let slots ← Slots.readAll inner fs (Slots.empty fs) members
      liftFault ending.check
      slots.complete fs
  | limit, v => tuple what fs limit v

/-- Decodes a whole text. Only blanks may follow the value. -/
def decodeText {α : Type} (decode : Decoder α) (text : String) : Decoded α := do
  let (value, rest) := readPrefixValue text.toList
  let x ← decode nestingLimit value
  liftFault (checkEnd rest)
  return x

end Viewsmith.Json
