import ProtoSchema.Text.Words

/-!
Paths: names with slashes between them. A path is cleaned by reading alone: empty parts and single
dots go, and two dots take away the part before them.
-/
namespace ProtoSchema.Files.Path

open Text

/-- The part that stands for a directory itself. -/
def here : List Char := ['.']

/-- The part that stands for the directory above. -/
def above : List Char := ['.', '.']

/-- The parts of a path, the empty ones too. -/
def parts (path : List Char) : List (List Char) := cut (· == '/') path

/-- Whether a path starts at the root. -/
def isRooted (path : List Char) : Bool := path.head? = some '/'

/-- Adds a part to clean parts, of which the last comes first. -/
def addPart (rooted : Bool) (clean : List (List Char)) (part : List Char) : List (List Char) :=
  if part = [] || part = here then clean
  else if part = above then
    match clean with
    | [] => if rooted then [] else [above]
    | last :: rest => if last = above then above :: clean else rest
  else part :: clean

/-- The parts of a cleaned path. -/
def cleanParts (path : List Char) : List (List Char) :=
  ((parts path).foldl (addPart (isRooted path)) []).reverse

/-- The shortest path that reads as the same place. -/
def clean (path : List Char) : List Char :=
  if isRooted path then '/' :: join ['/'] (cleanParts path)
  else
    match cleanParts path with
    | [] => here
    | ps => join ['/'] ps

/-- A path inside a directory, cleaned. -/
def append (directory name : String) : String :=
  match [directory.toList, name.toList].filter (· ≠ []) with
  | [] => ""
  | ps => String.ofList (clean (join ['/'] ps))

/-- The path without its last part and the slash before that, if anything is left. -/
def parent? (path : List Char) : Option (List Char) :=
  match (path.reverse.dropWhile (· == '/')).dropWhile (· != '/') with
  | _ :: c :: r => some (c :: r).reverse
  | _ => none

theorem length_parent?_lt {path p : List Char} (h : parent? path = some p) :
    p.length < path.length := by
  unfold parent? at h
  have h₁ := length_dropWhile_le (· != '/') (path.reverse.dropWhile (· == '/'))
  have h₂ := length_dropWhile_le (· == '/') path.reverse
  split at h
  · next c r hr =>
    cases h
    rw [hr] at h₁
    simp only [List.length_cons, List.length_reverse] at *
    omega
  · cases h

end ProtoSchema.Files.Path
