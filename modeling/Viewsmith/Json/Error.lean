import Viewsmith.Json.Data
import Viewsmith.Text.Shown

/-!
# Errors of a decoder

A text that cannot be read is a fault. A text that can be read but does not have the shape that is
asked for is a mismatch, and a mismatch has a message.
-/

namespace Viewsmith.Json

/-- A value that stands where another kind of value is wanted. -/
inductive Found : Type where
  | null
  | bool (b : Bool)
  | number (n : Number)
  | string (s : String)
  | sequence
  | map
deriving DecidableEq

def Found.describe : Found → String
  | .null => "null"
  | .bool b => "boolean `" ++ toString b ++ "`"
  | .number (.real x) => "floating point `" ++ Decimal.documentText x ++ "`"
  | .number n => "integer `" ++ n.text ++ "`"
  | .string s => "string " ++ Shown.quote s
  | .sequence => "sequence"
  | .map => "map"

/-- How a document differs from the shape that is asked for. -/
inductive Mismatch : Type where
  | wrongKind (found : Found) (expected : String)
  | outOfRange (found : Found) (expected : String)
  | wrongLength (length : Nat) (expected : String)
  | missingField (name : String)
  | duplicateField (name : String)
  | unknownVariant (name : String) (known : List String)
  | noAlternative (type : String)
  | refused (message : String)   -- a value of the right shape that its type refuses
deriving DecidableEq

def inBackquotes (name : String) : String := "`" ++ name ++ "`"

def expectedNames : List String → String
  | [] => "there are no variants"
  | [a] => "expected " ++ inBackquotes a
  | [a, b] => "expected " ++ inBackquotes a ++ " or " ++ inBackquotes b
  | names => "expected one of " ++ ", ".intercalate (names.map inBackquotes)

/-! ## Positions

A message may be followed by the position of the mismatch, ` at line 3 column 14`. A refusal whose
own text ends like that is taken to end in its position, and loses it.
-/

def lineMarker : List Char := " at line ".toList

def columnMarker : List Char := " column ".toList

/-- Whether a run of digits is a number of 64 bits. -/
def isPositionNumber (digits : List Char) : Bool :=
  !digits.isEmpty && Decimal.digitsValue digits < wordLimit

/-- Whether a text is the rest of a position after the marker of its line. -/
def isPositionTail (text : List Char) : Bool :=
  let afterLine := text.dropWhile Char.isDigit
  let column := afterLine.drop columnMarker.length
  isPositionNumber (text.takeWhile Char.isDigit)
    && columnMarker.isPrefixOf afterLine
    && column.all Char.isDigit && isPositionNumber column

/-- The text before the last line marker, with the text after it. -/
def splitLastLine : List Char → Option (List Char × List Char)
  | [] => none
  | c :: rest =>
      match splitLastLine rest with
      | some (before, after) => some (c :: before, after)
      | none =>
          if lineMarker.isPrefixOf (c :: rest) then
            some ([], (c :: rest).drop lineMarker.length)
          else none

/-- A text without the position that it ends in. -/
def withoutPosition (text : String) : String :=
  match splitLastLine text.toList with
  | some (before, after) => if isPositionTail after then String.ofList before else text
  | none => text

def Mismatch.message : Mismatch → String
  | wrongKind found expected => "invalid type: " ++ found.describe ++ ", expected " ++ expected
  | outOfRange found expected => "invalid value: " ++ found.describe ++ ", expected " ++ expected
  | wrongLength length expected =>
      "invalid length " ++ toString length ++ ", expected " ++ expected
  | missingField name => "missing field " ++ inBackquotes name
  | duplicateField name => "duplicate field " ++ inBackquotes name
  | unknownVariant name known =>
      "unknown variant " ++ inBackquotes name ++ ", " ++ expectedNames known
  | noAlternative type => "data did not match any variant of untagged enum " ++ type
  | refused message => withoutPosition message

inductive DecodeError : Type where
  | fault (f : Fault)
  | mismatch (m : Mismatch)
deriving DecidableEq

def Mismatch.documentMessage (m : Mismatch) : String := "Invalid parse data: " ++ m.message

def DecodeError.message : DecodeError → String
  | fault .malformed => "Invalid parse data: malformed document"
  | fault .truncated => "Invalid parse data: the document ends too early"
  | mismatch m => m.documentMessage

end Viewsmith.Json
