import MetaSchema.Session.Basic

/-!
# Files

The files that a command reads, and the source of schemas that a directory of them is.

* `Entry`, `OpenError`, `FileSystem`: what opening a path gives.
* `FileSystem.read`: the content of a file.
* `FileSystem.pathOf`, `FileSystem.source`: the schemas of a directory, named by
  `SchemaIdentifier.fileName`.
* `FileTree`: files held in memory; `FileTree.write` adds one, `FileTree.fileSystem` follows a path.
-/

namespace MetaSchema

inductive Entry where
  | file (content : Text.Octets)
  | directory
deriving DecidableEq, Repr

/-- Why a path cannot be opened. -/
inductive OpenError where
  | missing
  | other (message : String)
deriving DecidableEq, Repr

def OpenError.message : OpenError → String
  | missing => "No such file or directory (os error 2)"
  | other message => message

/-- What opening each path gives. -/
abbrev FileSystem := String → Except OpenError Entry

/-- The content of an entry, or why it has none. -/
def Entry.content : Entry → Except String Text.Octets
  | file content => .ok content
  | directory => .error "Is a directory (os error 21)"

namespace FileSystem

/-- The content of a file, or the message of what went wrong. -/
def read (fs : FileSystem) (path : String) : Except String Text.Octets :=
  match fs path with
  | .error e => .error e.message
  | .ok entry => entry.content

/-- The path of a file in a directory. -/
def join (dir name : String) : String :=
  if dir = "" ∨ dir.endsWith "/" then dir ++ name else dir ++ "/" ++ name

/-- The path of a schema in a directory. -/
def pathOf (dir : String) (id : SchemaIdentifier) : String := join dir id.fileName

/-- The schemas in the files of a directory. -/
def source (fs : FileSystem) (dir : String) : Source := fun id =>
  let path := pathOf dir id
  match fs path with
  | .error .missing => .error .notFound
  | .error (.other message) => .error (.failed message)
  | .ok entry => .ok ⟨path, entry.content⟩

end FileSystem

/-! ## Files in memory -/

/-- A place in a tree of files: the names that lead to it from the root, the last one first. -/
abbrev Location := List String

/-- Where one name leads from a directory. -/
def Location.step (place : Location) (name : String) : Location :=
  if name = "" ∨ name = "." then place else if name = ".." then place.tail else name :: place

/-- Files and directories with a current directory. -/
structure FileTree where
  current : Location
  /-- The directories apart from the root. -/
  directories : List Location
  /-- The files, the newest first. -/
  files : List (Location × Text.Octets)

namespace FileTree

/-- A tree that holds nothing; its current directory is the root. -/
def empty : FileTree := ⟨[], [], []⟩

/-- The names on a path. -/
def names (path : String) : List String := (path.toList.splitOn '/').map String.ofList

/-- The directory at which a path starts. -/
def start (t : FileTree) (path : String) : Location :=
  if path.startsWith "/" then [] else t.current

/-- Creates the directory at a path, and those that lead to it. -/
def create (t : FileTree) (path : String) : FileTree :=
  let reach (s : Location × List Location) (name : String) := (s.1.step name, s.1.step name :: s.2)
  { t with directories := ((names path).foldl reach (t.start path, t.directories)).2 }

/-- Creates the directory at a path and makes it the current one. -/
def enter (t : FileTree) (path : String) : FileTree :=
  { t.create path with current := (names path).foldl Location.step (t.start path) }

/-- Writes a file; the directories that lead to it are created. -/
def write (t : FileTree) (path : String) (content : Text.Octets) : FileTree :=
  let place := (names path).foldl Location.step (t.start path)
  { t.create ("/".intercalate (names path).dropLast) with files := (place, content) :: t.files }

/-- The entry at a place. -/
def entry? (t : FileTree) (place : Location) : Option Entry :=
  match t.files.lookup place with
  | some content => some (.file content)
  | none => if place = [] ∨ place ∈ t.directories then some .directory else none

/-- The longest name of a file, in octets. -/
def maxFileName : Nat := 255

/-- The longest path, in octets. -/
def maxPath : Nat := 4095

/-- Why a name or a path of too many octets cannot be opened. -/
def nameTooLong : OpenError := .other "File name too long (os error 36)"

/-- Follows names from a place. Only in a directory can a name be followed. -/
def follow (t : FileTree) : Location → List String → Except OpenError Entry
  | place, [] =>
    match t.entry? place with
    | some entry => .ok entry
    | none => .error .missing
  | place, name :: rest =>
    match t.entry? place with
    | none => .error .missing
    | some (.file _) => .error (.other "Not a directory (os error 20)")
    | some .directory =>
      if maxFileName < name.utf8ByteSize then .error nameTooLong
      else follow t (place.step name) rest

/-- Opens a path. -/
def fileSystem (t : FileTree) : FileSystem := fun path =>
  if path = "" then .error .missing
  else if maxPath < path.utf8ByteSize then .error nameTooLong
  else t.follow (t.start path) (names path)

end FileTree

end MetaSchema
