import ProtoSchema.Annotation
import ProtoSchema.TypeExpr

/-!
Schemas: a namespace with roles, types, enums and unions. A role is a group of operations.
-/
namespace ProtoSchema

/-- A field of a type, or a parameter of an operation. -/
structure Field where
  name : String := ""
  description : String := ""
  type : TypeExpr := .absent
  default : Value := .null
  annotations : List Annotation := []
deriving Repr, Inhabited

/-- An operation. One that is unary takes the type of its only parameter as it is; any other takes
a message made of its parameters. -/
structure Operation where
  name : String := ""
  description : String := ""
  annotations : List Annotation := []
  parameters : List Field := []
  returns : TypeExpr := .absent
  unary : Bool := false
deriving Repr, Inhabited

/-- A group of operations. -/
structure Role where
  name : String := ""
  description : String := ""
  annotations : List Annotation := []
  operations : List Operation := []
deriving Repr, Inhabited

/-- A type with fields. -/
structure TypeDef where
  name : String := ""
  description : String := ""
  annotations : List Annotation := []
  fields : List Field := []
deriving Repr, Inhabited

/-- A value of an enum with its number. -/
structure EnumValue where
  name : String := ""
  description : String := ""
  index : Int := 0
deriving Repr, Inhabited

/-- An enum. -/
structure EnumDef where
  name : String := ""
  description : String := ""
  annotations : List Annotation := []
  values : List EnumValue := []
deriving Repr, Inhabited

/-- A union of types. -/
structure UnionDef where
  name : String := ""
  description : String := ""
  annotations : List Annotation := []
  types : List TypeExpr := []
deriving Repr, Inhabited

/-- The name space of a schema. -/
structure Namespace where
  name : String := ""
  description : String := ""
  annotations : List Annotation := []
deriving Repr, Inhabited

/-- A schema. -/
structure Schema where
  space : Namespace := {}
  roles : List Role := []
  types : List TypeDef := []
  enums : List EnumDef := []
  unions : List UnionDef := []
deriving Repr, Inhabited

/-- Whether the operation gives a value. -/
def Operation.returnsValue (op : Operation) : Bool := op.returns.isValue

/-- The parameter that is taken as it is, if the operation is unary with exactly one. -/
def Operation.soleParameter (op : Operation) : Option Field :=
  match op.parameters with
  | [p] => if op.unary then some p else none
  | _ => none

end ProtoSchema
