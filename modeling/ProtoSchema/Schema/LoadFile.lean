import ProtoSchema.Files.FileSystem
import ProtoSchema.Schema.Load

/-!
Schemas in files.
-/
namespace ProtoSchema

open Files

/-- Why a schema cannot be loaded from a file. -/
inductive LoadFileError where
  | unopened (cause : PathError)
  | invalid (path : String) (cause : LoadError)
deriving Repr, Inhabited

/-- The wording of an error. -/
def LoadFileError.message : LoadFileError → String
  | unopened cause => "failed to open schema: " ++ cause.message
  | invalid path cause => path ++ ": " ++ cause.message

/-- Loads a schema from a file. A directory can be opened, but it holds no YAML. -/
def Schema.loadFile (fs : FileSystem) (path : String) : Except LoadFileError Schema :=
  match fs.readFile path with
  | .ok content => (Schema.load content).mapError (.invalid path)
  | .error cause =>
    match cause.action with
    | .reading => .error (.invalid path (.unreadable .notYaml))
    | _ => .error (.unopened cause)

end ProtoSchema
