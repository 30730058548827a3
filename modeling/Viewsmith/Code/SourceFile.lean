import Viewsmith.Code.Component
import Viewsmith.Preview

/-!
# Source files

A source file has three parts with an empty line between them: the import statements, the component
function and the style table. The imports come first in the file but are written last, when the
other parts have been seen to mention what they mention.
-/

namespace Viewsmith

inductive GenerateError : Type where
  | invalidStyle (error : InvalidStyle)
  | unknownImport (error : UnknownImport)
  | preview (error : PreviewError)
deriving DecidableEq

def GenerateError.message : GenerateError → String
  | invalidStyle e => e.message
  | unknownImport e => e.message
  | preview e => e.message

/-- The outcome of a run: its result, and the events up to there. -/
structure Outcome (α : Type) : Type where
  result : Except GenerateError α
  log : List LogEvent

/-- Continues a successful run with a step that reports no events. -/
def Outcome.andThen {α β : Type} (o : Outcome α) (f : α → Except GenerateError β) : Outcome β :=
  { o with result := o.result.bind f }

def assemble (options : WriterOptions) (imports body sheet : String) : String :=
  let b := ((CodeBuffer.new options).writeRaw imports).blankLine
  let b := (b.writeRaw body).blankLine
  ((b.writeRaw sheet).finishLine).text

/-- The source file of a finished component, with the number of primitives that it imports. -/
def Draft.finish (settings : Settings) (d : Draft) : Except UnknownImport (String × Nat) :=
  let (sheet, imports) := d.styles.writeSheet (.new settings.writer) d.imports
  match imports.writeStatements (.new settings.writer) with
  | .error failure => .error failure
  | .ok statements =>
      .ok (assemble settings.writer statements.text d.code.text sheet.text, imports.size)

def generate (settings : Settings) (design : Design) : Outcome String :=
  let start := (Draft.new settings).reporting (StyleTable.newEvents settings.component.stylePrefix)
  match start.writeFunction settings.component design with
  | .error failure => ⟨.error (.invalidStyle failure.error), failure.draft.log⟩
  | .ok d =>
      match d.finish settings with
      | .error e => ⟨.error (.unknownImport e), d.log⟩
      | .ok (code, primitives) =>
          ⟨.ok code, d.log ++ [.generated primitives d.styles.size code.utf8ByteSize]⟩

/-! ## Files -/

/-- A generated file: its path in the output directory, and its content. -/
structure GeneratedFile : Type where
  path : String
  content : String
deriving DecidableEq, Repr

def frameworkName : String := "React Native"

def fileExtension : String := "tsx"

def componentPath (name : String) : String := pascalName name ++ "." ++ fileExtension

def generateFile (settings : Settings) (design : Design) : Outcome GeneratedFile :=
  (generate settings design).andThen fun code => .ok ⟨componentPath design.root.name, code⟩

/-- Generates the source file of a design wrapped in a preview entry. -/
def generatePreview (settings : Settings) (design : Design) (rootTag : String) :
    Outcome GeneratedFile :=
  (generateFile settings design).andThen fun file =>
    match renderPreview file.content design.root.name rootTag with
    | .ok content => .ok ⟨"preview." ++ fileExtension, content⟩
    | .error e => .error (.preview e)

end Viewsmith
