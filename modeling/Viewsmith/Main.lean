import Viewsmith.CommandLine.Run

/-!
# The command line

The program itself: it hands arguments, environment and files to the library, and puts the product
where it goes.
-/

open Viewsmith Viewsmith.CommandLine

def systemFault : IO.Error → FileFault
  | .noFileOrDirectory .. => .notFound
  | e => .other (toString e)

def readTextFile (path : String) : IO (Except FileFault String) := do
  match ← (IO.FS.readBinFile path).toBaseIO with
  | .error e => return .error (systemFault e)
  | .ok content =>
      match String.fromUTF8? content with
      | some text => return .ok text
      | none => return .error .notText

def complain (message : String) : IO UInt32 := do
  IO.eprintln ("error: " ++ message)
  return 1

def deliver (p : Product) : IO UInt32 := do
  for event in p.log do
    if event.isWarning then IO.eprintln (event.level.name ++ " " ++ event.message)
  match p.output with
  | none => IO.print p.text; return 0
  | some path =>
      match ← (IO.FS.writeFile path p.text).toBaseIO with
      | .ok () => return 0
      | .error e => complain (RunError.unwritable path (systemFault e)).message

def carryOut (i : Invocation) : IO UInt32 := do
  let contents ← i.command.sources.mapM fun path => do return (path, ← readTextFile path)
  let read (path : String) := (contents.lookup path).getD (.error .notFound)
  match i.product read with
  | .ok p => deliver p
  | .error e => complain e.message

/-- Understands a command line and carries it out. The exit status is 2 for one that is not
understood, 1 for one that fails. -/
def main (arguments : List String) : IO UInt32 := do
  let settings ← IO.getEnv Environment.settingsVariable
  let logLevel ← IO.getEnv Environment.logLevelVariable
  match parseArguments ⟨settings, logLevel⟩ arguments with
  | .ok i => carryOut i
  | .error e =>
      if e.isRequest then IO.println e.message; return 0
      else IO.eprintln e.message; return 2
