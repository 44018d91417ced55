import ProtoSchema.Proto.Output
import ProtoSchema.Text.Quoted

/-!
Log lines and the levels at which they are shown.
-/
namespace ProtoSchema.Command

/-- How much is logged, from least to most. -/
inductive Level where
  | panic
  | fatal
  | error
  | warning
  | info
  | debug
  | trace
deriving Repr, DecidableEq, Inhabited

namespace Level

/-- The words for the levels. -/
def words : List (String × Level) := [
  ("panic", panic), ("fatal", fatal), ("error", error), ("warn", warning), ("warning", warning),
  ("info", info), ("debug", debug), ("trace", trace)]

/-- The level of a word, in upper or lower case. -/
def ofWord? (word : String) : Option Level :=
  words.lookup (String.ofList (word.toList.map Text.toLower))

/-- Whether entries for debugging are shown. -/
def showsDebug : Level → Bool
  | debug => true
  | trace => true
  | _ => false

end Level

/-- An entry for debugging. -/
structure LogEntry where
  message : String
  fields : List (String × String) := []
deriving Repr, Inhabited

namespace LogEntry

/-- The entry for an event of a rendering, with the name of the schema. -/
def ofEvent (schema : String) (e : Proto.Event) : LogEntry where
  message := e.message
  fields := e.fields ++ [("schema", schema)]

/-- Whether a value with this character is written as it is. -/
def isPlain (c : Char) : Bool :=
  ('a' ≤ c && c ≤ 'z') || ('A' ≤ c && c ≤ 'Z') || ('0' ≤ c && c ≤ '9') ||
    ['-', '.', '_', '/', '@', '^', '+'].contains c

/-- A value in a line: as it is if it is plain, otherwise quoted. -/
def valueText (value : String) : String :=
  if value.toList.all isPlain then value else Text.quote value

/-- A key with its value. -/
def pairText (pair : String × String) : String := pair.1 ++ "=" ++ valueText pair.2

/-- The line of an entry, with its fields in the order of their keys. -/
def line (e : LogEntry) : String :=
  let fields := e.fields.mergeSort fun a b => !(b.1 < a.1)
  String.intercalate " " ([("level", "debug"), ("msg", e.message)] ++ fields |>.map pairText) ++
    "\n"

end LogEntry

end ProtoSchema.Command
