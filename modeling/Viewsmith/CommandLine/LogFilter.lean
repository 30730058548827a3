import Viewsmith.CommandLine.Pattern
import Viewsmith.Decimal.Parse
import Viewsmith.Unicode.Numbers

/-!
# Log filters

A log filter is a list of directives between commas. A directive is a level, `debug`; a target,
`parser`; or a target with a level, `parser=debug`. A target may carry a span in brackets with a
field in braces, `parser[load{path}]=debug`. A field may have a value, `load{line=12}`: a number, or
a pattern that the value has to match.
-/

namespace Viewsmith.LogFilter

open Unicode

/-! ## Levels -/

/-- The names of levels. A level may also be given by its number, `0` to `5`. -/
def levelNames : List String := ["off", "error", "warn", "info", "debug", "trace"]

def isLevelNumber (word : List Char) : Bool :=
  let digits := if word.head? = some '+' then word.drop 1 else word
  let significant := digits.dropWhile (· = '0')
  !digits.isEmpty && digits.all Char.isDigit
    && (significant.isEmpty || ["1", "2", "3", "4", "5"].contains (String.ofList significant))

/-- Whether a word is a level. Names are read without regard to case, and no word at all is a
level too. -/
def isLevel (word : List Char) : Bool :=
  word.isEmpty || isLevelNumber word
    || levelNames.contains (String.ofList (word.map Char.toLower))

/-! ## Fields -/

def isFieldValue (text : List Char) : Bool :=
  (Decimal.parse? (String.ofList text)).isSome || Pattern.isWellFormed text

/-- Whether a text is a field: a name, which may be any text, and perhaps a value, which stands
between the first equals sign and the next. -/
def isField (text : List Char) : Bool :=
  !text.isEmpty
    && match text.splitOnP (· = '=') with
      | _ :: value :: _ => isFieldValue value
      | _ => true

/-! ## Positions

A position of a text is a number of bytes.
-/

/-- The characters of a text with their positions, for a text that begins at a position. -/
def withPositions (start : Nat) : List Char → List (Char × Nat)
  | [] => []
  | c :: rest => (c, start) :: withPositions (start + c.utf8Size) rest

def dropBytes : (position : Nat) → List Char → List Char
  | 0, text => text
  | _, [] => []
  | position, c :: rest => dropBytes (position - c.utf8Size) rest

def takeBytes : (position : Nat) → List Char → List Char
  | 0, _ => []
  | _, [] => []
  | position, c :: rest => c :: takeBytes (position - c.utf8Size) rest

/-! ## Directives -/

inductive Progress : Type where
  | start
  | levelOrTarget
  | span
  | field (position : Nat)   -- after the opening brace at the position before
  | fields                   -- after the closing brace
  | target                   -- after the closing bracket
  | level (position : Nat)   -- after the equals sign at the position before
deriving DecidableEq, Repr

/-- Whether a character may begin a directive that does not begin with a span. -/
def startsDirective (c : Char) : Bool :=
  isAlphabetic c || isNumeric c || ['-', ':', '_'].contains c

/-- Reads the character at a position of a directive. A field is what the directive as given holds
between the positions of its braces. -/
def Progress.read (directive : List Char) (p : Progress) (c : Char) (position : Nat) :
    Option Progress :=
  match p with
  | .start =>
      if c = '[' then some .span else if startsDirective c then some .levelOrTarget else none
  | .levelOrTarget =>
      if c = '=' then some (.level (position + 1))
      else if c = '[' then some .span
      else some .levelOrTarget
  | .span =>
      if c = ']' then some .target
      else if c = '{' then some (.field (position + 1))
      else some .span
  | .field first =>
      if c = '}' then
        let field := takeBytes (position - first) (dropBytes first directive)
        if isField field then some .fields else none
      else some (.field first)
  | .fields => if c = ']' then some .target else none
  | .target => if c = '=' then some (.level (position + 1)) else none
  | .level first => some (.level first)

/-- Whether a directive may end here. Its level is what the directive as given holds from the
level's position on. -/
def Progress.isComplete (directive : List Char) : Progress → Bool
  | .levelOrTarget | .target => true
  | .level position => isLevel (dropBytes position directive)
  | _ => false

def trim (text : List Char) : List Char :=
  ((text.dropWhile isWhitespace).reverse.dropWhile isWhitespace).reverse

/-- Whether a directive is well formed. It is read without the blanks around it, but the positions
found so are positions of the directive as given. -/
def isDirective (directive : List Char) : Bool :=
  let read (p : Progress) (c : Char × Nat) := p.read directive c.1 c.2
  match (withPositions 0 (trim directive)).foldlM read .start with
  | some p => p.isComplete directive
  | none => false

/-- Whether a filter is well formed. Empty directives are passed over. -/
def isWellFormed (filter : String) : Bool :=
  ((filter.toList.splitOnP (· = ',')).filter (!·.isEmpty)).all isDirective

end Viewsmith.LogFilter
