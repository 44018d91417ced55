import ProtoSchema.Proto.Output
import ProtoSchema.Proto.Signature
import ProtoSchema.Schema.Filter

/-!
Schemas as proto3 text: a header, a service for every role, a message for every type, the enums, a
message for every union, and last the request messages of the operations.
-/
namespace ProtoSchema.Proto

open Text

/-! ## Failures -/

/-- Why a field cannot be written: it has no usable number, or its type cannot be expressed. -/
inductive FieldError where
  | missingNumber
  | unusableNumber (cause : Annotation.IntError)
  | unsupportedType (cause : UnsupportedType)
deriving Repr, Inhabited

/-- Why a schema cannot be rendered, and where. -/
inductive RenderError where
  | operation (role operation : String) (cause : UnsupportedType)
  | field (message field : String) (cause : FieldError)
  | member (union : String) (cause : UnsupportedType)
deriving Repr, Inhabited

/-- The wording of an error. -/
def FieldError.message : FieldError → String
  | missingNumber => "missing fieldnum annotation"
  | unusableNumber cause => "missing fieldnum annotation: " ++ cause.message
  | unsupportedType cause => cause.message

/-- The wording of an error. -/
def RenderError.message : RenderError → String
  | operation r op cause => "service " ++ r ++ ": rpc " ++ op ++ ": " ++ cause.message
  | field m f cause => "message " ++ m ++ ": field " ++ f ++ ": " ++ cause.message
  | member u cause => "union " ++ u ++ ": " ++ cause.message

/-- Whether a field's number is the trouble; otherwise it is a type. -/
def RenderError.isMissingNumber : RenderError → Bool
  | field _ _ .missingNumber => true
  | field _ _ (.unusableNumber _) => true
  | _ => false

/-! ## Options -/

/-- The package names to write, the namespace's own if `package` is empty, and a filter; none is
as good as one that accepts everything. -/
structure Options where
  package : String := ""
  goPackage : String := ""
  filter : Option Filter := none
deriving Repr, Inhabited

/-- The package that is written for a schema. -/
def Options.packageFor (o : Options) (s : Schema) : String :=
  if o.package.isEmpty then s.space.name else o.package

/-- The filter that is in force. -/
def Options.filterOrAll (o : Options) : Filter := o.filter.getD .all

/-! ## Blocks -/

/-- What stands before the contents of a block. -/
def indent : String := "  "

/-- What stands before the text of a comment. -/
def commentLead : String := "// "

/-- The end of a block at the top level. -/
def blockEnd {ε : Type} : Output ε := .ofLines ["\x7d", ""]

/-- The lines before all blocks. -/
def header {ε : Type} (o : Options) (s : Schema) : Output ε :=
  .ofLines (["syntax = \"proto3\";", "", "package " ++ o.packageFor s ++ ";", ""] ++
    if o.goPackage.isEmpty then [] else ["option go_package = \"" ++ o.goPackage ++ "\";", ""])

/-- The number of a field, from its first annotation of the name `fieldnum`. -/
def fieldNumber (f : Field) : Except FieldError Int :=
  match Annotation.find? f.annotations "fieldnum" with
  | none => .error .missingNumber
  | some a => a.toInt.mapError .unusableNumber

/-- A field of a message. -/
def fieldLines (f : Field) : Output FieldError :=
  .withResult (fieldNumber f) fun number =>
    .withResult (f.type.signature.mapError .unsupportedType) fun signature =>
      (Output.comment (indent ++ commentLead) f.description).andThen
        (.line (indent ++ signature ++ " " ++ toSnake f.name ++ " = " ++ toString number ++ ";"))

/-- A message for a type. -/
def messageBlock (t : TypeDef) : Output RenderError :=
  .sequence [
    .comment commentLead t.description,
    .line ("message " ++ toPascal t.name ++ " \x7b"),
    .all (fun f => (fieldLines f).mapFailure (.field t.name f.name)) t.fields,
    blockEnd]

/-- The request type of an operation: its sole parameter's, or a message of its own, which is to be
written later. -/
def requestType (op : Operation) : Except UnsupportedType (String × Output UnsupportedType) :=
  match op.soleParameter with
  | some p => p.type.signature.map fun signature => (signature, .empty)
  | none =>
    .ok (op.requestName, (Output.request op.request).andThen (.event (.madeRequest op.requestName)))

/-- The response type of an operation. -/
def responseType (op : Operation) : Except UnsupportedType String :=
  if op.returnsValue then op.returns.signature else .ok "Empty"

/-- The line of an operation with its comment, for a request type. -/
def rpcLine (op : Operation) (request : String) : Output UnsupportedType :=
  .withResult (responseType op) fun response =>
    (Output.comment (indent ++ commentLead) op.description).andThen
      (.line (indent ++ "rpc " ++ toPascal op.name ++ "(" ++ request ++ ") returns (" ++ response
        ++ ");"))

/-- The line of an operation with its comment; its own request message is made before. -/
def operationLines (op : Operation) : Output UnsupportedType :=
  .withResult (requestType op) fun (request, made) => made.andThen (rpcLine op request)

/-- A service for a role, with the operations that the filter accepts. -/
def serviceBlock (filter : Filter) (r : Role) : Output RenderError :=
  .sequence [
    .comment commentLead r.description,
    .line ("service " ++ r.name ++ " \x7b"),
    .all (fun op =>
      if filter.acceptsOperation r op then
        (operationLines op).mapFailure (.operation r.name op.name)
      else .event (.skippedOperation r.name op.name)) r.operations,
    blockEnd]

/-- An enum. -/
def enumBlock {ε : Type} (e : EnumDef) : Output ε :=
  .sequence [
    .comment commentLead e.description,
    .line ("enum " ++ toPascal e.name ++ " \x7b"),
    .all (fun v =>
      (Output.comment (indent ++ commentLead) v.description).andThen
        (.line (indent ++ toUpperSnake v.name ++ " = " ++ toString v.index ++ ";"))) e.values,
    blockEnd]

/-- A member of a union with its number. -/
def memberLine (member : TypeExpr × Nat) : Output UnsupportedType :=
  .withResult member.1.signature fun signature =>
    .line (indent ++ indent ++ signature ++ " " ++ toSnake member.1.memberName ++ "_value = " ++
      toString (member.2 + 1) ++ ";")

/-- A message for a union. -/
def unionBlock (u : UnionDef) : Output RenderError :=
  .sequence [
    .comment commentLead u.description,
    .line ("message " ++ toPascal u.name ++ " \x7b"),
    .line (indent ++ "oneof oneof \x7b"),
    .all (fun m => (memberLine m).mapFailure (.member u.name)) u.types.zipIdx,
    .line (indent ++ "\x7d"),
    blockEnd]

/-! ## Schemas -/

/-- The services of the roles that the filter accepts. -/
def services (filter : Filter) (roles : List Role) : Output RenderError :=
  .all (fun r =>
    if filter.acceptsRole r then serviceBlock filter r else .event (.skippedRole r.name)) roles

/-- Everything but the request messages. -/
def declarations (o : Options) (s : Schema) : Output RenderError :=
  .sequence [
    header o s,
    services o.filterOrAll s.roles,
    .all messageBlock s.types,
    .all enumBlock s.enums,
    .all unionBlock s.unions]

/-- Renders a schema, up to the first failure. -/
def generate (o : Options) (s : Schema) : Output RenderError :=
  let written := declarations o s
  written.andThen (.all messageBlock written.requests)

/-- The text of a schema. -/
def render (o : Options) (s : Schema) : Except RenderError String :=
  let output := generate o s
  match output.failure with
  | some e => .error e
  | none => .ok output.text

end ProtoSchema.Proto
