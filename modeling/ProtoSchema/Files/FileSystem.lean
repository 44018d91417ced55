import ProtoSchema.Files.Path

/-!
A file system: directories and files with their modes, and a directory in which one works. Paths
are followed part by part, so that every part but the last must be a directory. What can be made or
written may also be refused at single places.
-/
namespace ProtoSchema.Files

/-- Why the file system refuses something. -/
inductive Reason where
  | notFound
  | notDirectory
  | isDirectory
  | alreadyThere
  | nameTooLong
  | invalidName
  | denied
deriving Repr, DecidableEq, Inhabited

/-- The wording of a reason. -/
def Reason.message : Reason → String
  | notFound => "no such file or directory"
  | notDirectory => "not a directory"
  | isDirectory => "is a directory"
  | alreadyThere => "file exists"
  | nameTooLong => "file name too long"
  | invalidName => "invalid argument"
  | denied => "permission denied"

/-- What was tried when the file system refused. -/
inductive Action where
  | opening
  | reading
  | makingDirectory
deriving Repr, DecidableEq, Inhabited

/-- The word for an action. -/
def Action.word : Action → String
  | opening => "open"
  | reading => "read"
  | makingDirectory => "mkdir"

/-- A refusal with what was tried and the path as it was given. -/
structure PathError where
  action : Action
  path : String
  reason : Reason
deriving Repr, DecidableEq, Inhabited

/-- The wording of an error. -/
def PathError.message (e : PathError) : String :=
  e.action.word ++ " " ++ e.path ++ ": " ++ e.reason.message

/-- A directory, or a file with its contents. -/
inductive Entry where
  | directory (mode : Nat)
  | file (mode : Nat) (content : String)
deriving Repr, DecidableEq, Inhabited

/-- A place in a file system: the names on the way from the root. -/
abbrev Place := List (List Char)

/-- A file system with the directory in which one works. The root is a directory that is always
there. -/
structure FileSystem where
  entries : List (Place × Entry) := []
  workplace : Place := []
  /-- The places at which nothing can be made or written, with the reasons. -/
  refusals : List (Place × Reason) := []
deriving Repr, Inhabited

namespace FileSystem

/-- A file system with nothing but a directory to work in. -/
def fresh : FileSystem where
  entries := [(["home".toList], .directory 0o755)]
  workplace := ["home".toList]

/-- What is at a place. -/
def entry? (fs : FileSystem) (place : Place) : Option Entry :=
  if place = [] then some (.directory 0o755) else fs.entries.lookup place

/-- The entries with a place set. -/
def setEntry (place : Place) (e : Entry) : List (Place × Entry) → List (Place × Entry)
  | [] => [(place, e)]
  | (p, old) :: rest => if p = place then (p, e) :: rest else (p, old) :: setEntry place e rest

/-- The file system with a place set. -/
def set (fs : FileSystem) (place : Place) (e : Entry) : FileSystem :=
  { fs with entries := setEntry place e fs.entries }

/-! ## Following paths -/

/-- Names have at most this many octets. -/
def nameLimit : Nat := 255

/-- Paths have fewer octets than this. -/
def pathLimit : Nat := 4096

/-- The number of octets of a text. -/
def octets (s : List Char) : Nat := s.foldl (fun n c => n + c.utf8Size) 0

/-- The place that a part of a path leads to from a directory. -/
def follow (place : Place) (part : List Char) : Except Reason Place :=
  if part = [] || part = Path.here then .ok place
  else if part = Path.above then .ok place.dropLast
  else if octets part > nameLimit then .error .nameTooLong
  else .ok (place ++ [part])

/-- The place that a part of a path leads to from a directory, if a directory is there. -/
def enter (fs : FileSystem) (place : Place) (part : List Char) : Except Reason Place := do
  let next ← follow place part
  match fs.entry? next with
  | none => throw .notFound
  | some (.file ..) => throw .notDirectory
  | some (.directory _) => return next

/-- Where a path ends. -/
structure Ending where
  /-- The directory that holds the last part, or the path's end if the last part is no name. -/
  base : Place
  /-- The last part. -/
  last : List Char
  /-- Whether a slash follows the last part. -/
  slash : Bool
deriving Repr, Inhabited

/-- Whether the last part is a name. -/
def Ending.isNamed (e : Ending) : Bool := e.last ≠ [] && e.last ≠ Path.here && e.last ≠ Path.above

/-- Follows a path up to its last part. -/
def resolve (fs : FileSystem) (path : List Char) : Except Reason Ending := do
  if path.contains '\x00' then throw .invalidName
  if path = [] then throw .notFound
  if octets path ≥ pathLimit then throw .nameTooLong
  let named := (Path.parts path).filter (· ≠ [])
  let base ← named.dropLast.foldlM fs.enter (if Path.isRooted path then [] else fs.workplace)
  return { base, last := named.getLast?.getD [], slash := path.getLast? = some '/' }

/-- What a path leads to, with its place. -/
def find (fs : FileSystem) (path : List Char) : Except Reason (Place × Entry) := do
  let ending ← fs.resolve path
  let place ← follow ending.base ending.last
  match fs.entry? place with
  | none => throw .notFound
  | some (.file mode content) =>
    if ending.slash then throw .notDirectory else return (place, .file mode content)
  | some (.directory mode) => return (place, .directory mode)

/-- Fails if nothing can be made or written at a place. -/
def permit (fs : FileSystem) (place : Place) : Except Reason Unit :=
  match fs.refusals.lookup place with
  | some reason => .error reason
  | none => .ok ()

/-! ## Files -/

/-- The contents of a file. -/
def readFile (fs : FileSystem) (path : String) : Except PathError String :=
  match fs.find path.toList with
  | .error reason => .error ⟨.opening, path, reason⟩
  | .ok (_, .directory _) => .error ⟨.reading, path, .isDirectory⟩
  | .ok (_, .file _ content) => .ok content

/-- The place where a file can be written, and the mode of the file that is there. -/
def placeFile (fs : FileSystem) (path : List Char) : Except Reason (Place × Option Nat) := do
  let ending ← fs.resolve path
  if ending.slash || !ending.isNamed then throw .isDirectory
  let place ← follow ending.base ending.last
  match fs.entry? place with
  | some (.directory _) => throw .isDirectory
  | some (.file mode _) =>
    fs.permit place
    return (place, some mode)
  | none =>
    fs.permit place
    return (place, none)

/-- Writes a file. A new one gets the mode `mode`, another keeps its own. -/
def writeFile (fs : FileSystem) (path : String) (mode : Nat) (content : String) :
    Except PathError FileSystem :=
  match fs.placeFile path.toList with
  | .error reason => .error ⟨.opening, path, reason⟩
  | .ok (place, old) => .ok (fs.set place (.file (old.getD mode) content))

/-! ## Directories -/

/-- Makes a directory in one that is there. -/
def makeDirectory (fs : FileSystem) (path : List Char) (mode : Nat) : Except Reason FileSystem := do
  let ending ← fs.resolve path
  if !ending.isNamed then throw .alreadyThere
  let place ← follow ending.base ending.last
  match fs.entry? place with
  | some _ => throw .alreadyThere
  | none =>
    fs.permit place
    return fs.set place (.directory mode)

/-- Whether a path leads to a directory. -/
def isDirectory (fs : FileSystem) (path : List Char) : Bool :=
  match fs.find path with
  | .ok (_, .directory _) => true
  | _ => false

/-- Makes a directory if it is not there; the directory that holds it must be. -/
def ensureDirectory (fs : FileSystem) (path : List Char) (mode : Nat) :
    FileSystem × Option PathError :=
  match fs.makeDirectory path mode with
  | .ok made => (made, none)
  | .error reason =>
    if fs.isDirectory path then (fs, none)
    else (fs, some ⟨.makingDirectory, String.ofList path, reason⟩)

/-- Makes a directory and those that hold it, as far as they are not there. What is made before a
refusal stays. -/
def makeDirectories (fs : FileSystem) (path : List Char) (mode : Nat) :
    FileSystem × Option PathError :=
  match fs.find path with
  | .ok (_, .directory _) => (fs, none)
  | .ok (_, .file ..) => (fs, some ⟨.makingDirectory, String.ofList path, .notDirectory⟩)
  | .error _ =>
    match h : Path.parent? path with
    | none => fs.ensureDirectory path mode
    | some parent =>
      have := Path.length_parent?_lt h
      match fs.makeDirectories parent mode with
      | (made, some e) => (made, some e)
      | (made, none) => made.ensureDirectory path mode
termination_by path.length

/-! ## Changes -/

/-- The entries in the working directory that another file system does not have in the same way,
with their paths from there. -/
def changesSince (fs before : FileSystem) : List (String × Entry) :=
  fs.entries.filterMap fun (place, e) =>
    if before.entry? place ≠ some e && fs.workplace.isPrefixOf place then
      let rest := place.drop fs.workplace.length
      some (String.ofList (Text.join ['/'] rest), e)
    else none

end FileSystem

end ProtoSchema.Files
