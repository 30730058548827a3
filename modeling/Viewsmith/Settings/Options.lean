/-!
# Settings

How generated code is laid out, and how its component is shaped. Every setting has a default.
-/

namespace Viewsmith

inductive QuoteStyle : Type where
  | single
  | double
deriving DecidableEq, Repr

def QuoteStyle.char : QuoteStyle → Char
  | .single => '\''
  | .double => '"'

def QuoteStyle.name : QuoteStyle → String
  | .single => "single"
  | .double => "double"

/-- All quote styles, in the order in which messages list them. -/
def QuoteStyle.all : List QuoteStyle := [.single, .double]

inductive LineEnd : Type where
  | lf
  | crlf
deriving DecidableEq, Repr

/-- The characters of a line end; in a document they are also its name. -/
def LineEnd.text : LineEnd → String
  | .lf => "\n"
  | .crlf => "\r\n"

/-- All line ends, in the order in which messages list them. -/
def LineEnd.all : List LineEnd := [.lf, .crlf]

inductive ExportStyle : Type where
  | named
  | default
deriving DecidableEq, Repr

def ExportStyle.name : ExportStyle → String
  | .named => "named"
  | .default => "default"

/-- All export styles, in the order in which messages list them. -/
def ExportStyle.all : List ExportStyle := [.named, .default]

/-- The layout of generated code. `indentSpaces` has no effect on tabs. -/
structure WriterOptions : Type where
  indentSpaces : Nat := 2
  useTabs : Bool := false
  quoteStyle : QuoteStyle := .single
  lineEnd : LineEnd := .lf
deriving DecidableEq, Repr

/-- The characters of one indentation level. Capacity is idealised: a program cannot hold more than
`2 ^ 63 - 1` spaces and stops when it is to make them, while here any width has its indentation. -/
def WriterOptions.indentUnit (o : WriterOptions) : List Char :=
  if o.useTabs then ['\t'] else List.replicate o.indentSpaces ' '

/-- The shape of a generated component. `stylePrefix` begins the keys of the style table, and
`rowFromLayout` makes rows declare their flex direction. -/
structure ComponentOptions : Type where
  exportStyle : ExportStyle := .named
  stylePrefix : String := "style"
  rowFromLayout : Bool := true
deriving DecidableEq, Repr

structure Settings : Type where
  writer : WriterOptions := {}
  component : ComponentOptions := {}
deriving DecidableEq, Repr

end Viewsmith
