/-!
# File systems

The files below a working directory, as far as a run can see them. A path is a text whose names are
divided by slashes; it is followed name by name, and every name but the last has to lead to a
directory. A path may leave the working directory: the directories above it and the root are there,
but nothing is known to stand in them.
-/

namespace Viewsmith.CommandLine

inductive FileFault : Type where
  | notFound
  | isDirectory
  | notADirectory
  | notText
  | other (reason : String)
deriving DecidableEq, Repr

def FileFault.message : FileFault → String
  | notFound => "no such file or directory"
  | isDirectory => "is a directory"
  | notADirectory => "not a directory"
  | notText => "not valid text"
  | other reason => reason

inductive FileEntry : Type where
  | file (content : ByteArray)
  | directory

/-- A place: the names that lead to it from the working directory. Above the working directory the
first names are `..`; a place that is counted from the root begins with a slash. -/
abbrev Place : Type := List String

/-- The entries below the working directory. -/
structure FileSystem : Type where
  entries : List (Place × FileEntry)

namespace FileSystem

def empty : FileSystem := ⟨[]⟩

def root : Place := ["/"]

/-- Whether a place is the working directory or a directory above it. -/
def isAbove (place : Place) : Bool := place.all (· = "..")

def find? (fs : FileSystem) (place : Place) : Option FileEntry :=
  if isAbove place || place = root then some .directory
  else (fs.entries.find? fun e => e.1 = place).map Prod.snd

def put (fs : FileSystem) (place : Place) (entry : FileEntry) : FileSystem :=
  ⟨fs.entries.filter (fun e => e.1 ≠ place) ++ [(place, entry)]⟩

/-! ## Paths -/

def pathNames (path : String) : List String :=
  (path.toList.splitOnP (· = '/')).map String.ofList

def requireDirectory (fs : FileSystem) (place : Place) : Except FileFault Unit :=
  match fs.find? place with
  | some .directory => .ok ()
  | some (.file _) => .error .notADirectory
  | none => .error .notFound

/-- The directory that holds a place. The root holds itself. -/
def parent (place : Place) : Place :=
  if isAbove place then place ++ [".."]
  else if place = root then root
  else place.dropLast

def enter (fs : FileSystem) (place : Place) (name : String) : Except FileFault Place := do
  fs.requireDirectory place
  if name = "" ∨ name = "." then return place
  else if name = ".." then return parent place
  else return place ++ [name]

/-- The place that names lead to. Something need not stand there yet. A first name that is empty
stands for the root, but no path is empty as a whole. -/
def locate (fs : FileSystem) : List String → Except FileFault Place
  | [""] => .error .notFound
  | "" :: names => names.foldlM fs.enter root
  | names => names.foldlM fs.enter []

/-- Names without the empty ones at their end, which stem from closing slashes. -/
def withoutClosing (names : List String) : List String :=
  (names.reverse.dropWhile (·.isEmpty)).reverse

/-! ## Reading and writing -/

def readBytes (fs : FileSystem) (path : String) : Except FileFault ByteArray := do
  let place ← fs.locate (pathNames path)
  match fs.find? place with
  | none => .error .notFound
  | some .directory => .error .isDirectory
  | some (.file content) => return content

def readText (fs : FileSystem) (path : String) : Except FileFault String := do
  let content ← fs.readBytes path
  match String.fromUTF8? content with
  | some text => return text
  | none => .error .notText

/-- Makes a text the content of the file at a path, which is made if there is none. A path with a
closing slash can only be that of a directory. -/
def writeText (fs : FileSystem) (path text : String) : Except FileFault FileSystem := do
  let names := pathNames path
  let place ← fs.locate (withoutClosing names)
  if names.getLast? = some "" then .error .isDirectory
  else
    match fs.find? place with
    | some .directory => .error .isDirectory
    | _ => return fs.put place (.file text.toUTF8)

end FileSystem

end Viewsmith.CommandLine
