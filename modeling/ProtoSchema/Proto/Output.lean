import ProtoSchema.Proto.Comment
import ProtoSchema.Schema.Request

/-!
What rendering leaves behind: lines of text, request messages that are still to be written, log
entries, and the failure that ended it, if there was one.
-/
namespace ProtoSchema.Proto

/-- Something worth noting about a rendering. -/
inductive Event where
  | skippedRole (role : String)
  | skippedOperation (role operation : String)
  | madeRequest (message : String)
deriving Repr, DecidableEq, Inhabited

/-- The message of a log entry. -/
def Event.message : Event → String
  | skippedRole _ => "skipping role rejected by handler filter"
  | skippedOperation _ _ => "skipping operation rejected by handler filter"
  | madeRequest _ => "synthesized request message"

/-- The fields of a log entry. -/
def Event.fields : Event → List (String × String)
  | skippedRole role => [("role", role)]
  | skippedOperation role operation => [("operation", operation), ("role", role)]
  | madeRequest message => [("message", message)]

/-- A rendering so far, or up to its failure. -/
structure Output (ε : Type) where
  lines : List String := []
  requests : List TypeDef := []
  log : List Event := []
  failure : Option ε := none
deriving Inhabited

namespace Output

variable {ε δ α : Type}

/-- Nothing. -/
def empty : Output ε := {}

/-- Lines of text. -/
def ofLines (lines : List String) : Output ε := { lines := lines }

/-- A line of text. -/
def line (text : String) : Output ε := ofLines [text]

/-- A comment. -/
def comment (lead text : String) : Output ε :=
  ofLines ((commentLines lead.toList text.toList).map String.ofList)

/-- An entry in the log. -/
def event (e : Event) : Output ε := { log := [e] }

/-- A request message that is to be written later. -/
def request (message : TypeDef) : Output ε := { requests := [message] }

/-- A failure. -/
def fail (e : ε) : Output ε := { failure := some e }

/-- One output after another; after a failure nothing follows. -/
def andThen (a b : Output ε) : Output ε :=
  match a.failure with
  | some _ => a
  | none => {
      lines := a.lines ++ b.lines, requests := a.requests ++ b.requests, log := a.log ++ b.log,
      failure := b.failure }

/-- The outputs of the members of a list one after another. -/
def all (f : α → Output ε) : List α → Output ε
  | [] => empty
  | a :: as => (f a).andThen (all f as)

/-- Several outputs one after another. -/
def sequence (outputs : List (Output ε)) : Output ε := all id outputs

/-- Goes on with a result, or fails with its error. -/
def withResult (r : Except ε α) (f : α → Output ε) : Output ε :=
  match r with
  | .error e => fail e
  | .ok a => f a

/-- The same output with another description of its failure. -/
def mapFailure (f : ε → δ) (a : Output ε) : Output δ where
  lines := a.lines
  requests := a.requests
  log := a.log
  failure := a.failure.map f

/-- The text of the lines. -/
def text (a : Output ε) : String := String.join (a.lines.map (· ++ "\n"))

end Output

end ProtoSchema.Proto
