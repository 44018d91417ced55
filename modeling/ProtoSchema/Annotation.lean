import ProtoSchema.Text.Quoted
import ProtoSchema.Value

/-!
Annotations: named values on the parts of a schema, in the order in which they are written. An
annotation's value can be asked for as an integer of 32 bits.
-/
namespace ProtoSchema

/-- A named value. -/
structure Annotation where
  name : String
  value : Value := .null
deriving Repr, Inhabited

namespace Annotation

/-- The first annotation of a name. -/
def find? (annotations : List Annotation) (name : String) : Option Annotation :=
  annotations.find? (·.name == name)

/-- Whether there is an annotation of a name. -/
def has (annotations : List Annotation) (name : String) : Bool :=
  (find? annotations name).isSome

/-- Why an annotation's value is no integer of 32 bits. -/
inductive IntError where
  | notIntegral (name : String) (x : Number.Binary64)
  | outOfRange (name : String) (value : Value)
  | notNumeric (name : String) (value : Value)
deriving Repr, Inhabited

/-- The wording of an error. -/
def IntError.message : IntError → String
  | notIntegral name x =>
    "annotation " ++ Text.quote name ++ ": value " ++ x.toText ++ " is not an integer"
  | outOfRange name value =>
    "annotation " ++ Text.quote name ++ ": value " ++ value.display ++ " out of range"
  | notNumeric name value =>
    "annotation " ++ Text.quote name ++ ": value " ++ value.display ++ " (" ++ value.typeName ++
      ") is not an integer"

/-- Whether an integer has 32 bits. -/
def fitsInt32 (n : Int) : Bool := -0x80000000 ≤ n && n < 0x80000000

/-- The value as an integer of 64 bits. What would be another number then is refused before: of
integers without a sign and with 64 bits, and of floating-point numbers, those that do not have 32
bits. A floating-point number must have no fraction. -/
def toInt64 (a : Annotation) : Except IntError Int64 :=
  match a.value with
  | .fixedInt (.uint n) | .fixedInt (.uint64 n) =>
    if n > 0x7fffffff then .error (.outOfRange a.name a.value) else .ok n.toInt64
  | .fixedInt n => .ok n.toInt64
  | .float (.infinite negative) => .error (.outOfRange a.name (.float (.infinite negative)))
  | .float x =>
    match x.toInt? with
    | none => .error (.notIntegral a.name x)
    | some n =>
      if fitsInt32 n then .ok (.ofInt n) else .error (.outOfRange a.name (.float x))
  | value => .error (.notNumeric a.name value)

/-- The value as an integer of 32 bits. -/
def toInt (a : Annotation) : Except IntError Int := do
  let n ← a.toInt64
  if fitsInt32 n.toInt then return n.toInt
  else throw (.outOfRange a.name (.fixedInt (.int64 n)))

end Annotation

end ProtoSchema
