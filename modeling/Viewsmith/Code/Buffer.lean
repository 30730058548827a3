import Viewsmith.Code.StringLiteral
import Viewsmith.Decimal.Format
import Viewsmith.Design.Node

/-!
# Code buffers

Generated code is written token by token. A buffer indents by itself: the first token of a line is
preceded by the indentation of the level at which it is written, so a line without tokens stays
empty. Blocks raise and lower the level.
-/

namespace Viewsmith

/-- Code under construction. The text is kept from its last character to its first. -/
structure CodeBuffer : Type where
  options : WriterOptions
  reversed : List Char
  level : Nat

namespace CodeBuffer

def new (options : WriterOptions) : CodeBuffer := ⟨options, [], 0⟩

def chars (b : CodeBuffer) : List Char := b.reversed.reverse

def text (b : CodeBuffer) : String := String.ofList b.chars

def isEmpty (b : CodeBuffer) : Bool := b.reversed.isEmpty

def atLineStart (b : CodeBuffer) : Bool :=
  match b.reversed with
  | [] => true
  | c :: _ => c == '\n'

def lineEnd (b : CodeBuffer) : List Char := b.options.lineEnd.text.toList

def indentation (b : CodeBuffer) : List Char :=
  (List.replicate b.level b.options.indentUnit).flatten

/-! ## Text -/

def append (b : CodeBuffer) (text : List Char) : CodeBuffer :=
  { b with reversed := text.reverse ++ b.reversed }

/-- Appends a token, after the indentation if it begins a line. -/
def writeChars (b : CodeBuffer) (token : List Char) : CodeBuffer :=
  if token.isEmpty then b
  else if b.atLineStart then (b.append b.indentation).append token
  else b.append token

def write (b : CodeBuffer) (token : String) : CodeBuffer := b.writeChars token.toList

def quote (b : CodeBuffer) (text : String) : CodeBuffer :=
  b.writeChars (stringLiteral b.options.quoteStyle text.toList)

/-- Appends a value: a text as a string literal, a number bare. -/
def literal (b : CodeBuffer) : Literal → CodeBuffer
  | .text s => b.quote s
  | .number x => b.write (Decimal.codeText x)

/-- Appends finished code, without indentation. -/
def writeRaw (b : CodeBuffer) (code : String) : CodeBuffer := b.append code.toList

/-! ## Lines -/

def newline (b : CodeBuffer) : CodeBuffer := b.append b.lineEnd

/-- Ends the line unless it is empty. -/
def finishLine (b : CodeBuffer) : CodeBuffer := if b.atLineStart then b else b.newline

/-- Puts an empty line after what has been written, if there is anything and no empty line yet. -/
def blankLine (b : CodeBuffer) : CodeBuffer :=
  if b.isEmpty then b
  else
    let b := b.finishLine
    if (b.lineEnd ++ b.lineEnd).reverse.isPrefixOf b.reversed then b else b.newline

/-! ## Levels -/

def indent (b : CodeBuffer) : CodeBuffer := { b with level := b.level + 1 }

/-- Lowers the level, if it can be lowered. -/
def dedent (b : CodeBuffer) : CodeBuffer := { b with level := b.level - 1 }

/-- Opens a block with a brace; its contents begin on the next line. -/
def openBlock (b : CodeBuffer) : CodeBuffer := ((b.write "\x7b").newline).indent

/-- Closes a block with a brace on a line of its own. -/
def closeBlock (b : CodeBuffer) : CodeBuffer := (b.finishLine.dedent).write "\x7d"

/-! ## View -/

@[simp]
theorem chars_new (options : WriterOptions) : (new options).chars = [] := rfl

@[simp]
theorem chars_append (b : CodeBuffer) (text : List Char) :
    (b.append text).chars = b.chars ++ text := by
  simp [append, chars]

@[simp]
theorem chars_indent (b : CodeBuffer) : b.indent.chars = b.chars := rfl

@[simp]
theorem chars_dedent (b : CodeBuffer) : b.dedent.chars = b.chars := rfl

@[simp]
theorem chars_newline (b : CodeBuffer) : b.newline.chars = b.chars ++ b.lineEnd := by
  simp [newline]

end CodeBuffer

end Viewsmith
