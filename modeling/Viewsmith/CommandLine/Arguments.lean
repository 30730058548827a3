/-!
# Arguments

The command line has two commands, `generate` and `check`, both on an input file. An option is
written `--name value` or `--name=value`; one with a letter also `-x value`, `-xvalue` or
`-x=value`. After `--` every argument is an operand. The log level may be given before the command
or after it, and options that have a variable in the environment take their value from there if they
are not given.

An option that still waits for its value takes the next argument, unless that argument is itself
an option. A value is filed only when the next argument is understood, so a mistake in that one may
be reported first.
-/

namespace Viewsmith.CommandLine

/-! ## Commands -/

/-- What `generate` is asked for. Without an output file the code is printed. -/
structure GenerateRequest : Type where
  input : String
  settings : Option String
  output : Option String
  preview : Bool
  rootTag : Option String
deriving DecidableEq, Repr

inductive Command : Type where
  | generate (request : GenerateRequest)
  | check (input : String)
deriving DecidableEq, Repr

/-- A command line that is understood. -/
structure Invocation : Type where
  logLevel : Option String
  command : Command
deriving DecidableEq, Repr

/-- Why a command line is not carried out. -/
inductive UsageError : Type where
  | helpWanted
  | versionWanted
  | nothingGiven
  | missingCommand
  | unknownCommand
  | missingArgument
  | unknownArgument
  | repeatedArgument
  | invalidValue
  | needlessValue
deriving DecidableEq, Repr

/-- Whether nothing is wrong: the user asked for information. -/
def UsageError.isRequest : UsageError → Bool
  | helpWanted | versionWanted => true
  | _ => false

def UsageError.message : UsageError → String
  | helpWanted | nothingGiven =>
      "usage: generate INPUT [--settings FILE] [--output FILE] [--preview [--root-tag ID]]\n"
        ++ "       check INPUT\n       [--log-level FILTER]"
  | versionWanted => "0.1.0"
  | missingCommand => "a command is missing"
  | unknownCommand => "unknown command"
  | missingArgument => "a required argument is missing"
  | unknownArgument => "unknown argument"
  | repeatedArgument => "an argument is given twice"
  | invalidValue => "an option has no value"
  | needlessValue => "an option takes no value"

/-! ## Parameters -/

/-- What can be given on a command line. -/
inductive Parameter : Type where
  | input
  | settings
  | output
  | preview
  | rootTag
  | logLevel
  | help
  | version
deriving DecidableEq, Repr

namespace Parameter

def all : List Parameter := [input, settings, output, preview, rootTag, logLevel, help, version]

/-- The name of a parameter after two dashes. The input file is an operand and has none. -/
def name? : Parameter → Option String
  | input => none
  | settings => some "settings"
  | output => some "output"
  | preview => some "preview"
  | rootTag => some "root-tag"
  | logLevel => some "log-level"
  | help => some "help"
  | version => some "version"

def letter? : Parameter → Option Char
  | settings => some 's'
  | output => some 'o'
  | help => some 'h'
  | version => some 'V'
  | _ => none

def hasValue : Parameter → Bool
  | preview | help | version => false
  | _ => true

/-- Whether the value of a parameter is the path of a file, which cannot be empty. -/
def isPath : Parameter → Bool
  | input | settings | output => true
  | _ => false

end Parameter

/-- The place of an argument: before the command, or after it. -/
inductive Scope : Type where
  | program
  | generate
  | check
deriving DecidableEq, Repr

def Scope.parameters : Scope → List Parameter
  | .program => [.logLevel, .help, .version]
  | .generate => [.input, .settings, .output, .preview, .rootTag, .logLevel, .help]
  | .check => [.input, .logLevel, .help]

def Scope.named? (s : Scope) (name : String) : Option Parameter :=
  s.parameters.find? fun p => p.name? = some name

def Scope.lettered? (s : Scope) (letter : Char) : Option Parameter :=
  s.parameters.find? fun p => p.letter? = some letter

/-! ## Environment -/

/-- The values of options that stand in the environment. -/
structure Environment : Type where
  settings : Option String := none
  logLevel : Option String := none
deriving DecidableEq, Repr

def Environment.settingsVariable : String := "SPRIG_SETTINGS"

def Environment.logLevelVariable : String := "SPRIG_LOG_LEVEL"

/-! ## Reading arguments -/

/-- The arguments read so far in one place: the values filed, and the parameter that has been read
last, with its value once there is one. -/
structure Reading : Type where
  scope : Scope
  filed : List (Parameter × String)
  pending : Option (Parameter × Option String)
  operandsOnly : Bool

namespace Reading

def new (scope : Scope) : Reading := ⟨scope, [], none, false⟩

def find? (r : Reading) (p : Parameter) : Option String :=
  (r.filed.find? fun e => e.1 = p).map Prod.snd

def isWaiting (r : Reading) : Bool :=
  match r.pending with
  | some (_, none) => true
  | _ => false

def file (r : Reading) (p : Parameter) (value : String) : Except UsageError Reading :=
  if (r.find? p).isSome then .error .repeatedArgument
  else if p.isPath && value.isEmpty then .error .invalidValue
  else .ok { r with filed := r.filed ++ [(p, value)] }

def settle (r : Reading) : Except UsageError Reading :=
  match r.pending with
  | none => .ok r
  | some (_, none) => .error .invalidValue
  | some (p, some value) => { r with pending := none }.file p value

/-- Files a value that belongs to an option itself. -/
def attach (r : Reading) (p : Parameter) (value : String) : Except UsageError Reading := do
  let r ← r.settle
  r.file p value

def flag (r : Reading) (p : Parameter) : Except UsageError Reading := do
  let r ← r.settle
  match p with
  | .help => .error .helpWanted
  | .version => .error .versionWanted
  | p => r.file p ""

/-- Reads an option whose value is the next argument. -/
def await (r : Reading) (p : Parameter) : Except UsageError Reading := do
  let r ← r.settle
  return { r with pending := some (p, none) }

def readName (r : Reading) (text : List Char) : Except UsageError Reading :=
  let name := String.ofList (text.takeWhile (· ≠ '='))
  match r.scope.named? name, text.dropWhile (· ≠ '=') with
  | none, _ => .error .unknownArgument
  | some p, [] => if p.hasValue then r.await p else r.flag p
  | some p, _ :: value =>
      if p.hasValue then r.attach p (String.ofList value) else .error .needlessValue

/-- Reads an argument after its single dash: letters of flags, and then perhaps the letter of an
option with its value. -/
def readLetters (r : Reading) : List Char → Except UsageError Reading
  | [] => .ok r
  | c :: rest =>
      match r.scope.lettered? c with
      | none => .error .unknownArgument
      | some p =>
          if p.hasValue then
            match rest with
            | [] => r.await p
            | '=' :: value => r.attach p (String.ofList value)
            | value => r.attach p (String.ofList value)
          else do
            let r ← r.flag p
            r.readLetters rest

def commandNames : List String := ["generate", "check", "help"]

def hasInput (r : Reading) : Bool :=
  (r.find? .input).isSome || r.pending.any fun p => p.1 = .input

/-- Reads an operand. A command takes one operand; before the command there is none. -/
def readOperand (r : Reading) (text : String) : Except UsageError Reading :=
  if r.scope = .program then
    .error (if r.operandsOnly && commandNames.contains text then .unknownArgument
      else .unknownCommand)
  else if r.hasInput then .error .unknownArgument
  else do
    let r ← r.settle
    return { r with pending := some (.input, some text) }

/-- Reads an argument. A dash alone is an operand. -/
def read (r : Reading) (argument : String) : Except UsageError Reading :=
  if r.operandsOnly then r.readOperand argument
  else
    match argument.toList with
    | ['-', '-'] => .ok { r with operandsOnly := true }
    | '-' :: '-' :: text => r.readName text
    | '-' :: c :: text => r.readLetters (c :: text)
    | _ =>
        match r.pending with
        | some (p, none) => .ok { r with pending := some (p, some argument) }
        | _ => r.readOperand argument

/-- The value of a parameter, if need be from the environment. -/
def orDefault (r : Reading) (p : Parameter) : Option String → Except UsageError Reading
  | none => .ok r
  | some value => if (r.find? p).isSome then .ok r else r.file p value

end Reading

/-! ## Command lines -/

/-- The command that filed values ask for. A root tag has a meaning only in a preview. -/
def Reading.command (r : Reading) : Except UsageError Command :=
  match r.find? .input with
  | none => .error .missingArgument
  | some input =>
      let preview := (r.find? .preview).isSome
      let rootTag := r.find? .rootTag
      if rootTag.isSome && !preview then .error .missingArgument
      else if r.scope = .generate then
        .ok (.generate ⟨input, r.find? .settings, r.find? .output, preview, rootTag⟩)
      else .ok (.check input)

/-- Reads the arguments after the name of a command. The log level given here is the one that
counts. -/
def parseCommand (env : Environment) (scope : Scope) (arguments : List String) :
    Except UsageError (Command × Option String) := do
  let r ← arguments.foldlM Reading.read (.new scope)
  let r ← r.settle
  let r ← if scope = .generate then r.orDefault .settings env.settings else .ok r
  let command ← r.command
  return (command, r.find? .logLevel)

def parseHelp {α : Type} : List String → Except UsageError α
  | [] => .error .helpWanted
  | [name] => .error (if Reading.commandNames.contains name then .helpWanted else .unknownCommand)
  | _ => .error .unknownCommand

def commandScope? : String → Option Scope
  | "generate" => some .generate
  | "check" => some .check
  | _ => none

/-- Reads arguments from the start of a command line, or from where a reading of it stands. -/
def parseFrom (env : Environment) (r : Reading) : List String → Except UsageError Invocation
  | [] => do
      let r ← r.settle
      .error (if r.filed.isEmpty && env.logLevel.isNone then .nothingGiven else .missingCommand)
  | argument :: rest =>
      if r.operandsOnly || r.isWaiting then do
        let r ← r.read argument
        parseFrom env r rest
      else if argument = "help" then parseHelp rest
      else
        match commandScope? argument with
        | some scope => do
            let (command, level) ← parseCommand env scope rest
            let r ← r.settle
            return ⟨(level.or (r.find? .logLevel)).or env.logLevel, command⟩
        | none => do
            let r ← r.read argument
            parseFrom env r rest

def parseArguments (env : Environment) (arguments : List String) : Except UsageError Invocation :=
  parseFrom env (.new .program) arguments

end Viewsmith.CommandLine
