import ProtoSchema.Schema
import ProtoSchema.Schema.Source
import ProtoSchema.TypeExpr.Parser

/-!
From a schema as written to a schema: every part must have a name, every type text must be a type
expression, and every value of an enum must have a number.
-/
namespace ProtoSchema

/-- What is wrong with a part of a schema as written. -/
inductive BuildError where
  | missingName
  | missingNamespace
  | missingIndex
  | badType (cause : TypeExpr.ParseError)
  | unaryArity (count : Nat)
  | inside (place : String) (cause : BuildError)
deriving Repr, Inhabited

namespace BuildError

/-- The wording of an error. -/
def message : BuildError → String
  | missingName => "name is required"
  | missingNamespace => "namespace is required"
  | missingIndex => "index is required"
  | badType cause => cause.message
  | unaryArity count =>
    "unary operations take exactly one parameter, got " ++ toString count
  | inside place cause => place ++ ": " ++ cause.message

/-- The place of an item in a list. -/
def item (list : String) (index : Nat) : String := list ++ "[" ++ toString index ++ "]"

end BuildError

namespace Source

/-- An error at a place. -/
def within {α : Type} (place : String) (r : Except BuildError α) : Except BuildError α :=
  r.mapError (.inside place)

/-- Builds the items of a list, which starts at the position `index`. -/
def buildAll {α β : Type} (list : String) (build : α → Except BuildError β) :
    (index : Nat) → List α → Except BuildError (List β)
  | _, [] => .ok []
  | index, a :: as => do
    let b ← within (BuildError.item list index) (build a)
    let bs ← buildAll list build (index + 1) as
    return b :: bs

/-- Reads a type. -/
def buildType (text : String) : Except BuildError TypeExpr :=
  (TypeExpr.parse text).mapError .badType

/-- Builds the fields of the kind `kind` in a list, which starts at the position `index`. -/
def buildFields (list kind : String) :
    (index : Nat) → List Field → Except BuildError (List ProtoSchema.Field)
  | _, [] => .ok []
  | index, f :: fs => do
    if f.name.isEmpty then throw (.inside (BuildError.item list index) .missingName)
    let type ← within (kind ++ " " ++ f.name) (buildType f.type)
    let rest ← buildFields list kind (index + 1) fs
    return { name := f.name, description := f.description, type := type, default := f.default,
             annotations := f.annotations } :: rest

/-- The result type of an operation; no text is no type. -/
def buildReturns (text : String) : Except BuildError TypeExpr :=
  if text.isEmpty then .ok .absent else within "returns" (buildType text)

/-- Builds an operation. -/
def Operation.build (o : Operation) : Except BuildError ProtoSchema.Operation :=
  if o.name.isEmpty then .error .missingName
  else within ("operation " ++ o.name) do
    let parameters ← buildFields "parameters" "parameter" 0 o.parameters
    if o.unary && parameters.length ≠ 1 then throw (.unaryArity parameters.length)
    let returns ← buildReturns o.returns
    return { name := o.name, description := o.description, annotations := o.annotations,
             parameters := parameters, returns := returns, unary := o.unary }

/-- Builds a role. -/
def Role.build (r : Role) : Except BuildError ProtoSchema.Role :=
  if r.name.isEmpty then .error .missingName
  else within ("role " ++ r.name) do
    let operations ← buildAll "operations" Operation.build 0 r.operations
    return { name := r.name, description := r.description, annotations := r.annotations,
             operations := operations }

/-- Builds a type. -/
def TypeDef.build (t : TypeDef) : Except BuildError ProtoSchema.TypeDef :=
  if t.name.isEmpty then .error .missingName
  else within ("type " ++ t.name) do
    let fields ← buildFields "fields" "field" 0 t.fields
    return { name := t.name, description := t.description, annotations := t.annotations,
             fields := fields }

/-- Builds the values of an enum, which start at the position `index`. -/
def buildValues : (index : Nat) → List EnumValue → Except BuildError (List ProtoSchema.EnumValue)
  | _, [] => .ok []
  | index, v :: vs => do
    if v.name.isEmpty then throw (.inside (BuildError.item "values" index) .missingName)
    match v.index with
    | none => throw (.inside ("value " ++ v.name) .missingIndex)
    | some n =>
      let rest ← buildValues (index + 1) vs
      return { name := v.name, description := v.description, index := n } :: rest

/-- Builds an enum. -/
def EnumDef.build (e : EnumDef) : Except BuildError ProtoSchema.EnumDef :=
  if e.name.isEmpty then .error .missingName
  else within ("enum " ++ e.name) do
    let values ← buildValues 0 e.values
    return { name := e.name, description := e.description, annotations := e.annotations,
             values := values }

/-- Builds a union. -/
def UnionDef.build (u : UnionDef) : Except BuildError ProtoSchema.UnionDef :=
  if u.name.isEmpty then .error .missingName
  else within ("union " ++ u.name) do
    let types ← u.types.mapM buildType
    return { name := u.name, description := u.description, annotations := u.annotations,
             types := types }

/-- Builds a schema. -/
def Schema.build (s : Schema) : Except BuildError ProtoSchema.Schema := do
  if s.space.name.isEmpty then throw .missingNamespace
  let roles ← buildAll "roles" Role.build 0 s.roles
  let types ← buildAll "types" TypeDef.build 0 s.types
  let enums ← buildAll "enums" EnumDef.build 0 s.enums
  let unions ← buildAll "unions" UnionDef.build 0 s.unions
  return {
    space := { name := s.space.name, description := s.space.description,
               annotations := s.space.annotations }
    roles := roles, types := types, enums := enums, unions := unions }

end Source

/-- Why a text cannot be loaded as a schema. -/
inductive LoadError where
  | unreadable (cause : Source.ReadError)
  | invalid (cause : BuildError)
deriving Repr, Inhabited

/-- The wording of an error. -/
def LoadError.message : LoadError → String
  | unreadable cause => "invalid document: " ++ cause.message
  | invalid cause => "invalid document: " ++ cause.message

/-- Loads a schema from a text, given what reads schemas as written. -/
def Schema.loadWith (read : List Char → Except Source.ReadError Source.Schema) (text : String) :
    Except LoadError Schema := do
  let source ← (read text.toList).mapError .unreadable
  (source.build).mapError .invalid

/-- Loads a schema from a YAML text. -/
def Schema.load (text : String) : Except LoadError Schema := Schema.loadWith Source.read text

end ProtoSchema
