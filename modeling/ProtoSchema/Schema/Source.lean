import ProtoSchema.Annotation
import ProtoSchema.Yaml.Decode
import ProtoSchema.Yaml.Node.OfTokens

/-!
Schemas as they are written in YAML: types are still text, and anything may be missing.
-/
namespace ProtoSchema.Source

open Yaml

/-- A field or a parameter as written. -/
structure Field where
  name : String := ""
  description : String := ""
  type : String := ""
  default : Value := .null
  annotations : List Annotation := []
deriving Repr, Inhabited

/-- An operation as written. -/
structure Operation where
  name : String := ""
  description : String := ""
  annotations : List Annotation := []
  parameters : List Field := []
  returns : String := ""
  unary : Bool := false
deriving Repr, Inhabited

/-- A role as written. -/
structure Role where
  name : String := ""
  description : String := ""
  annotations : List Annotation := []
  operations : List Operation := []
deriving Repr, Inhabited

/-- A type as written. -/
structure TypeDef where
  name : String := ""
  description : String := ""
  annotations : List Annotation := []
  fields : List Field := []
deriving Repr, Inhabited

/-- A value of an enum as written. -/
structure EnumValue where
  name : String := ""
  description : String := ""
  index : Option Int := none
deriving Repr, Inhabited

/-- An enum as written. -/
structure EnumDef where
  name : String := ""
  description : String := ""
  annotations : List Annotation := []
  values : List EnumValue := []
deriving Repr, Inhabited

/-- A union as written. -/
structure UnionDef where
  name : String := ""
  description : String := ""
  annotations : List Annotation := []
  types : List String := []
deriving Repr, Inhabited

/-- A namespace as written. -/
structure Namespace where
  name : String := ""
  description : String := ""
  annotations : List Annotation := []
deriving Repr, Inhabited

/-- A schema as written. -/
structure Schema where
  space : Namespace := {}
  roles : List Role := []
  types : List TypeDef := []
  enums : List EnumDef := []
  unions : List UnionDef := []
deriving Repr, Inhabited

/-! ## Decoding -/

/-- Why the annotations in a document are refused. -/
inductive Refusal where
  | notAnnotations (line : Nat)
  | notAnnotationName (line : Nat)
  | malformedValue (name : String)
  | unfitValue (name : String) (problems : List Problem)
deriving Repr, Inhabited

/-- The wording of a refusal. -/
def Refusal.message : Refusal → String
  | notAnnotations line => "line " ++ toString line ++ ": annotations must be a mapping or a list"
  | notAnnotationName line => "line " ++ toString line ++ ": annotation names must be scalars"
  | malformedValue name => "annotation " ++ Text.quote name ++ ": yaml syntax"
  | unfitValue name problems => "annotation " ++ Text.quote name ++ ": " ++ Problem.report problems

/-- Decoding of schemas. -/
abbrev Decoder (α : Type) := Node → Decode Refusal (Option α)

/-- Decodes the value of an annotation by itself. -/
def annotation (k v : Node) : Decode Refusal Annotation := do
  match ← Decode.alone (Decode.value v) with
  | .error .malformed => throw (.refused (.malformedValue k.text))
  | .error stop => throw stop
  | .ok (value, []) => pure { name := k.text, value := value.getD .null }
  | .ok (_, problems) => throw (.refused (.unfitValue k.text problems))

/-- Decodes annotations: a mapping from names to values, or a list of names. -/
def annotations : Decoder (List Annotation) := fun n =>
  Decode.visit n fun n => do
    match n with
    | .mapping _ _ entries => some <$> entries.mapM fun e => annotation e.1 e.2
    | .sequence _ _ items => some <$> items.mapM fun item => do
      match item with
      | .scalar _ _ text => pure { name := text }
      | item => throw (.refused (.notAnnotationName item.line))
    | .scalar line tag source =>
      if tag == Tag.null then
        let _ ← Decode.scalar (ε := Refusal) tag source
        pure (some [])
      else throw (.refused (.notAnnotations line))
    | .aliasOf line .. => throw (.refused (.notAnnotations line))

/-- A field that holds a text. -/
def textField {α : Type} (key : String) (put : String → α → α) : Decode.Field Refusal α :=
  .of key Decode.text put

/-- A field that holds annotations. -/
def annotationsField {α : Type} (put : List Annotation → α → α) : Decode.Field Refusal α :=
  .of "annotations" annotations put

/-- Decodes a field or a parameter. -/
def field : Decoder Field :=
  Decode.record "widl.rawField" true [
    textField "name" fun s x => { x with name := s },
    textField "description" fun s x => { x with description := s },
    textField "type" fun s x => { x with type := s },
    .of "default" Decode.value fun v x => { x with default := v },
    annotationsField fun as x => { x with annotations := as }] {}

/-- Decodes an operation. -/
def operation : Decoder Operation :=
  Decode.record "widl.rawOperation" true [
    textField "name" fun s x => { x with name := s },
    textField "description" fun s x => { x with description := s },
    annotationsField fun as x => { x with annotations := as },
    .of "parameters" (Decode.list "[]widl.rawField" field) fun l x => { x with parameters := l },
    textField "returns" fun s x => { x with returns := s },
    .of "unary" Decode.bool fun b x => { x with unary := b }] {}

/-- Decodes a role. -/
def role : Decoder Role :=
  Decode.record "widl.rawRole" true [
    textField "name" fun s x => { x with name := s },
    textField "description" fun s x => { x with description := s },
    annotationsField fun as x => { x with annotations := as },
    .of "operations" (Decode.list "[]widl.rawOperation" operation)
      fun l x => { x with operations := l }] {}

/-- Decodes a type. -/
def typeDef : Decoder TypeDef :=
  Decode.record "widl.rawType" true [
    textField "name" fun s x => { x with name := s },
    textField "description" fun s x => { x with description := s },
    annotationsField fun as x => { x with annotations := as },
    .of "fields" (Decode.list "[]widl.rawField" field) fun l x => { x with fields := l }] {}

/-- Decodes a value of an enum. -/
def enumValue : Decoder EnumValue :=
  Decode.record "widl.rawEnumValue" true [
    textField "name" fun s x => { x with name := s },
    textField "description" fun s x => { x with description := s },
    .of "index" Decode.int fun n x => { x with index := some n }] {}

/-- Decodes an enum. -/
def enumDef : Decoder EnumDef :=
  Decode.record "widl.rawEnum" true [
    textField "name" fun s x => { x with name := s },
    textField "description" fun s x => { x with description := s },
    annotationsField fun as x => { x with annotations := as },
    .of "values" (Decode.list "[]widl.rawEnumValue" enumValue)
      fun l x => { x with values := l }] {}

/-- Decodes a union. -/
def unionDef : Decoder UnionDef :=
  Decode.record "widl.rawUnion" true [
    textField "name" fun s x => { x with name := s },
    textField "description" fun s x => { x with description := s },
    annotationsField fun as x => { x with annotations := as },
    .of "types" (Decode.list "[]string" Decode.text) fun l x => { x with types := l }] {}

/-- Decodes a namespace that is written as a mapping; it may have fields that are not known. -/
def namespaceRecord : Decoder Namespace :=
  Decode.record "widl.plain" false [
    textField "name" fun s x => { x with name := s },
    textField "description" fun s x => { x with description := s },
    annotationsField fun as x => { x with annotations := as }] {}

/-- Decodes a namespace: its name alone, or a mapping, which is decoded by itself. -/
def space : Decoder Namespace := fun n =>
  Decode.visit n fun n => do
    match n with
    | .scalar _ tag source =>
      if tag == Tag.null then
        let _ ← Decode.scalar (ε := Refusal) tag source
        pure none
      else pure (some { name := source })
    | n =>
      match ← Decode.alone (namespaceRecord n) with
      | .error stop => throw stop
      | .ok (space, problems) =>
        problems.forM Decode.note
        pure space

/-- Decodes a schema. -/
def schema : Decoder Schema :=
  Decode.record "widl.rawDocument" true [
    .of "namespace" space fun n x => { x with space := n },
    .of "roles" (Decode.list "[]widl.rawRole" role) fun l x => { x with roles := l },
    .of "types" (Decode.list "[]widl.rawType" typeDef) fun l x => { x with types := l },
    .of "enums" (Decode.list "[]widl.rawEnum" enumDef) fun l x => { x with enums := l },
    .of "unions" (Decode.list "[]widl.rawUnion" unionDef) fun l x => { x with unions := l }] {}

/-- Why a text is no schema as written. -/
inductive ReadError where
  | notYaml
  | noDocument
  | unfit (problems : List Problem)
  | refused (reason : Refusal)
deriving Repr, Inhabited

/-- The wording of an error. -/
def ReadError.message : ReadError → String
  | notYaml => "yaml syntax"
  | noDocument => "empty document"
  | unfit problems => Problem.report problems
  | refused reason => reason.message

/-- Reads the schema that a YAML text holds in its first document. -/
def read (text : List Char) : Except ReadError Schema :=
  match Yaml.parse text with
  | .error _ => .error .notYaml
  | .ok none => .error .noDocument
  | .ok (some document) =>
    match ((schema document.root).run (Surroundings.ofDocument document)).run {} with
    | .error .malformed => .error .notYaml
    | .error (.refused reason) => .error (.refused reason)
    | .ok (s, tally) =>
      match tally.problems with
      | [] => .ok (s.getD {})
      | problems => .error (.unfit problems.reverse)

end ProtoSchema.Source
