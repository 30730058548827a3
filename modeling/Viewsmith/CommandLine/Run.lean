import Viewsmith.Code.SourceFile
import Viewsmith.CommandLine.Arguments
import Viewsmith.CommandLine.FileSystem
import Viewsmith.CommandLine.LogFilter
import Viewsmith.Design.Codec
import Viewsmith.Settings.Codec

/-!
# Runs of a command

A command reads its files, the design before the settings, and makes a text. Only when the text is
finished does anything become visible: it is printed, or it becomes the content of the output file.
-/

namespace Viewsmith.CommandLine

/-! ## Errors -/

/-- What an input file is read for. -/
inductive Source : Type where
  | design
  | settings
deriving DecidableEq, Repr

/-- How messages call a source; a design needs no word. -/
def Source.words : Source → String
  | .design => ""
  | .settings => "settings "

inductive RunError : Type where
  | badLogFilter (filter : String)
  | unreadable (source : Source) (path : String) (fault : FileFault)
  | undecodable (source : Source) (path : String) (error : Json.DecodeError)
  | generation (error : GenerateError)
  | unwritable (path : String) (fault : FileFault)
deriving DecidableEq

/-- What was being done when a run failed. Generation speaks for itself. -/
def RunError.context? : RunError → Option String
  | .badLogFilter filter => some ("invalid log level '" ++ filter ++ "'")
  | .unreadable source path _ => some ("failed to read " ++ source.words ++ path)
  | .undecodable source path _ => some ("failed to decode " ++ source.words ++ path)
  | .generation _ => none
  | .unwritable path _ => some ("failed to write " ++ path)

def RunError.message (e : RunError) : String :=
  match e with
  | .badLogFilter _ => e.context?.getD ""
  | .unreadable _ _ fault | .unwritable _ fault => e.context?.getD "" ++ ": " ++ fault.message
  | .undecodable _ _ error => e.context?.getD "" ++ ": " ++ error.message
  | .generation error => error.message

/-! ## Products -/

/-- What a command makes: a text, and the file that it goes to unless it is printed. -/
structure Product : Type where
  text : String
  output : Option String
  log : List LogEvent

abbrev Reader : Type := String → Except FileFault String

/-- The files that a command reads, in the order of their reading. -/
def Command.sources : Command → List String
  | .generate request => request.input :: request.settings.toList
  | .check input => [input]

def readSource {α : Type} (read : Reader) (source : Source) (parse : String → Json.Decoded α)
    (path : String) : Except RunError α :=
  match read path with
  | .error fault => .error (.unreadable source path fault)
  | .ok text =>
      match parse text with
      | .error e => .error (.undecodable source path e)
      | .ok x => .ok x

/-- Generates what is asked for: the source file of a design, or a preview of it. -/
def GenerateRequest.code (request : GenerateRequest) (settings : Settings) (design : Design) :
    Outcome String :=
  if request.preview then
    (generatePreview settings design (request.rootTag.getD defaultRootTag)).andThen
      fun file => .ok file.content
  else generate settings design

def Command.product (read : Reader) : Command → Except RunError Product
  | .generate request => do
      let design ← readSource read .design Design.parse request.input
      let settings ←
        match request.settings with
        | none => pure {}
        | some path => readSource read .settings Settings.parse path
      let outcome := request.code settings design
      match outcome.result with
      | .error e => .error (.generation e)
      | .ok text => return ⟨text, request.output, outcome.log⟩
  | .check input => do
      let design ← readSource read .design Design.parse input
      return ⟨design.summary ++ "\n", none, []⟩

def Invocation.checkFilter (i : Invocation) : Except RunError Unit :=
  match i.logLevel with
  | none => .ok ()
  | some filter => if LogFilter.isWellFormed filter then .ok () else .error (.badLogFilter filter)

def Invocation.product (read : Reader) (i : Invocation) : Except RunError Product := do
  i.checkFilter
  i.command.product read

/-! ## Effects -/

/-- What a run leaves behind. -/
structure Run : Type where
  result : Except RunError Unit
  printed : String
  files : FileSystem
  log : List LogEvent

/-- Puts a product where it goes. -/
def Product.deliver (p : Product) (files : FileSystem) : Run :=
  match p.output with
  | none => ⟨.ok (), p.text, files, p.log⟩
  | some path =>
      match files.writeText path p.text with
      | .error fault => ⟨.error (.unwritable path fault), "", files, p.log⟩
      | .ok files => ⟨.ok (), "", files, p.log ++ [.wroteFile path p.text.utf8ByteSize]⟩

/-- A run that fails before it has done anything. -/
def Run.failed (e : RunError) (files : FileSystem) : Run := ⟨.error e, "", files, []⟩

def Command.run (c : Command) (files : FileSystem) : Run :=
  match c.product files.readText with
  | .error e => .failed e files
  | .ok p => p.deliver files

def Invocation.run (i : Invocation) (files : FileSystem) : Run :=
  match i.checkFilter with
  | .error e => .failed e files
  | .ok () => i.command.run files

end Viewsmith.CommandLine
