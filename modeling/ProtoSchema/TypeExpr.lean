/-!
Types of fields, parameters and results: names, lists, maps and optional types. A type may also be
absent, or of a kind that this library does not know.
-/
namespace ProtoSchema

/-- What a type of a kind that this library does not know says about itself. -/
structure ForeignType where
  /-- The name by which errors call it. -/
  name : String
  /-- Its spelling. -/
  text : String
  /-- The number of its kind. -/
  kind : Int
deriving Repr, DecidableEq, Inhabited

/-- A type expression. -/
inductive TypeExpr where
  | named (name : String)
  | list (element : TypeExpr)
  | map (key value : TypeExpr)
  | optional (inner : TypeExpr)
  | absent
  | foreign (type : ForeignType)
deriving Repr, DecidableEq, Inhabited

namespace TypeExpr

/-- The canonical spelling of a type. -/
def spell : TypeExpr → String
  | named name => name
  | list element => "[" ++ element.spell ++ "]"
  | map key value => "\x7b" ++ key.spell ++ ": " ++ value.spell ++ "\x7d"
  | optional inner => inner.spell ++ "?"
  | absent => "<nil>"
  | foreign type => type.text

/-- The word for the number of a kind. -/
def kindWord (kind : Int) : String :=
  match kind with
  | 1 => "named"
  | 2 => "list"
  | 3 => "map"
  | 4 => "optional"
  | kind => "Kind(" ++ toString kind ++ ")"

/-- The word for the kind of a type; an absent type has none. -/
def kindName : TypeExpr → Option String
  | named _ => some (kindWord 1)
  | list _ => some (kindWord 2)
  | map _ _ => some (kindWord 3)
  | optional _ => some (kindWord 4)
  | absent => none
  | foreign type => some (kindWord type.kind)

/-- The type of operations that give nothing. -/
def void : TypeExpr := named "void"

/-- Whether an operation with this result type gives a value. -/
def isValue (t : TypeExpr) : Bool := t ≠ absent && t ≠ void

/-- The word by which a type is known as a member of a union: a name as it is, the words of the
parts and of the kind for lists and maps. -/
def memberName : TypeExpr → String
  | named name => name
  | list element => element.memberName ++ "_list"
  | map key value => key.memberName ++ "_" ++ value.memberName ++ "_map"
  | optional inner => inner.memberName
  | absent => "unknown"
  | foreign _ => "unknown"

end TypeExpr

end ProtoSchema
