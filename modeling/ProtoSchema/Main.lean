import ProtoSchema.Command.Run
import ProtoSchema.Text.Utf8

/-!
The program: takes what its arguments name from the disk, runs, and puts back what has changed.
-/
namespace ProtoSchema.Main

open Files

/-- The paths that a word of the command line may hold: the word itself, and what follows an equals
sign or the two characters of a short flag. -/
def candidates (word : String) : List String :=
  let cs := word.toList
  [cs, (cs.dropWhile (· != '=')).drop 1, cs.drop 2].filter (· ≠ []) |>.map String.ofList

/-- A path and all paths above it, from the top. -/
def ancestry (path : List Char) : List (List Char) :=
  match h : Path.parent? path with
  | none => [path]
  | some parent =>
    have := Path.length_parent?_lt h
    ancestry parent ++ [path]
termination_by path.length

/-- Takes what is at a path on the disk into a file system. -/
def take (fs : FileSystem) (path : String) : IO FileSystem := do
  try
    let real ← IO.FS.realPath path
    if ← real.isDir then return (fs.makeDirectories path.toList 0o755).1
    let bytes ← IO.FS.readBinFile path
    let content := String.ofList (Text.ofOctets (bytes.toList.map (·.toNat)))
    return (fs.writeFile path 0o644 content).toOption.getD fs
  catch _ => return fs

/-- The contents of a file, if there is one. -/
def contents (fs : FileSystem) (path : String) : Option String := (fs.readFile path).toOption

end ProtoSchema.Main

open ProtoSchema ProtoSchema.Main

/-- Runs the program on the disk. -/
def main (words : List String) : IO UInt32 := do
  let paths := words.flatMap candidates
  let before ← (paths.flatMap fun p => (ancestry p.toList).map String.ofList).foldlM take
    Files.FileSystem.fresh
  let result := Command.run before words
  for path in paths do
    if contents result.files path ≠ contents before path then
      IO.FS.writeFile path ((contents result.files path).getD "")
  IO.print result.stdout
  IO.eprint result.stderr
  return if result.error.isSome then 1 else 0
