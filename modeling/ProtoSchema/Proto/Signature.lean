import ProtoSchema.TypeExpr

/-!
How types are written in proto3 declarations.
-/
namespace ProtoSchema

/-- The schema names of scalars and their proto3 spelling. -/
def scalarNames : List (String × String) := [
  ("i8", "int32"), ("i16", "int32"), ("i32", "int32"), ("i64", "int64"),
  ("u8", "uint32"), ("u16", "uint32"), ("u32", "uint32"), ("u64", "uint64"),
  ("f32", "float"), ("f64", "double"), ("string", "string"), ("bytes", "bytes"),
  ("boolean", "bool"), ("date", "google.protobuf.Timestamp"),
  ("datetime", "google.protobuf.Timestamp"), ("raw", "google.protobuf.Any")]

/-- The proto3 spelling of a name: a scalar's own, any other name as it is. -/
def protoName (name : String) : String := (scalarNames.lookup name).getD name

/-- A part of a type that proto3 cannot express. -/
inductive UnsupportedType where
  | absent
  | foreign (name : String)
deriving Repr, DecidableEq, Inhabited

/-- The wording of an error. -/
def UnsupportedType.message : UnsupportedType → String
  | absent => "unsupported type: nil type"
  | foreign name => "unsupported type: " ++ name

/-- The proto3 spelling of a type. Nothing is checked that proto3 restricts further, such as the
types of map keys. -/
def TypeExpr.signature : TypeExpr → Except UnsupportedType String
  | named name => .ok (protoName name)
  | list element => do
    let element ← element.signature
    return "repeated " ++ element
  | map key value => do
    let key ← key.signature
    let value ← value.signature
    return "map<" ++ key ++ ", " ++ value ++ ">"
  | optional inner => do
    let inner ← inner.signature
    return "optional " ++ inner
  | absent => .error .absent
  | foreign type => .error (.foreign type.name)

end ProtoSchema
