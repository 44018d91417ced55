import ProtoSchema.Timestamp

/-!
Values of annotations and defaults. Their types are known only when a schema is read, so they are
one inductive type; every value has a text and the name of its type for messages.
-/
namespace ProtoSchema

open Number

/-- The width and sign of an integer. -/
inductive IntKind where
  | int
  | int32
  | int64
  | uint
  | uint32
  | uint64
deriving Repr, DecidableEq, Inhabited

/-- The name of an integer type. -/
def IntKind.name : IntKind → String
  | int => "int"
  | int32 => "int32"
  | int64 => "int64"
  | uint => "uint"
  | uint32 => "uint32"
  | uint64 => "uint64"

/-- An integer of some width and sign. -/
inductive FixedInt where
  | int (n : Int64)
  | int32 (n : Int32)
  | int64 (n : Int64)
  | uint (n : UInt64)
  | uint32 (n : UInt32)
  | uint64 (n : UInt64)
deriving Repr, DecidableEq, Inhabited

/-- The width and sign of an integer. -/
def FixedInt.kind : FixedInt → IntKind
  | int _ => .int
  | int32 _ => .int32
  | int64 _ => .int64
  | uint _ => .uint
  | uint32 _ => .uint32
  | uint64 _ => .uint64

/-- The number that an integer of some width stands for. -/
def FixedInt.toInt : FixedInt → Int
  | int n => n.toInt
  | int32 n => n.toInt
  | int64 n => n.toInt
  | uint n => n.toNat
  | uint32 n => n.toNat
  | uint64 n => n.toNat

/-- A number as an integer of a kind; what is too large for the kind comes round at the other end. -/
def IntKind.ofInt (n : Int) : IntKind → FixedInt
  | int => .int (.ofInt n)
  | int32 => .int32 (.ofInt n)
  | int64 => .int64 (.ofInt n)
  | uint => .uint (.ofInt n)
  | uint32 => .uint32 (.ofInt n)
  | uint64 => .uint64 (.ofInt n)

/-- An integer with a sign and 64 bits. One without a sign that is too large for that comes round at
the other end. -/
def FixedInt.toInt64 : FixedInt → Int64
  | int n => n
  | int32 n => n.toInt64
  | int64 n => n
  | uint n => n.toInt64
  | uint32 n => n.toUInt64.toInt64
  | uint64 n => n.toInt64

/-- A value: nothing, a scalar, a list, a map with text keys, a table with keys of any kind, or a
value of some other type, of which only the name of the type and the text are known. -/
inductive Value where
  | null
  | bool (b : Bool)
  | text (s : String)
  | fixedInt (n : FixedInt)
  | float (x : Binary64)
  | time (t : Timestamp)
  | list (items : List Value)
  | map (entries : List (String × Value))
  | table (entries : List (Value × Value))
  | foreign (type shown : String)
deriving Repr, Inhabited

namespace Value

/-- A number as a value of a kind. -/
def integer (kind : IntKind) (n : Int) : Value := fixedInt (kind.ofInt n)

/-- The name of the value's type in messages. -/
def typeName : Value → String
  | null => "<nil>"
  | bool _ => "bool"
  | text _ => "string"
  | fixedInt n => n.kind.name
  | float _ => "float64"
  | time _ => "time.Time"
  | list _ => "[]interface \x7b\x7d"
  | map _ => "map[string]interface \x7b\x7d"
  | table _ => "map[interface \x7b\x7d]interface \x7b\x7d"
  | foreign type _ => type

/-- Whether two scalars are the same key of a table: same kind and equal. A NaN is never the same,
nor is a time away from universal time, nor a value of another type. -/
def sameKey : Value → Value → Bool
  | null, null => true
  | bool a, bool b => a == b
  | text a, text b => a == b
  | fixedInt m, fixedInt n => m == n
  | float x, float y => x.equals y
  | time t, time u => t.offset == 0 && t == u
  | _, _ => false

/-- Whether the value can be a key of a table. -/
def isKey : Value → Bool
  | list _ => false
  | map _ => false
  | table _ => false
  | _ => true

/-- Tables are shown with keys of one type together; the types come in this order. -/
def typeRank : Value → Nat
  | null => 0
  | bool _ => 1
  | fixedInt (.int _) => 2
  | fixedInt (.int32 _) => 3
  | fixedInt (.int64 _) => 4
  | fixedInt (.uint _) => 5
  | fixedInt (.uint32 _) => 6
  | fixedInt (.uint64 _) => 7
  | float _ => 8
  | text _ => 9
  | time _ => 10
  | list _ => 11
  | map _ => 12
  | table _ => 13
  | foreign _ _ => 14

/-- The order in which keys of a table are shown: by type, then `false` before `true`, numbers by
size, texts by their characters. -/
def keyLe (a b : Value) : Bool :=
  if a.typeRank ≠ b.typeRank then a.typeRank ≤ b.typeRank
  else
    match a, b with
    | bool a, bool b => !a || b
    | fixedInt m, fixedInt n => m.toInt ≤ n.toInt
    | float x, float y => !y.lessThan x
    | text s, text t => !(t < s)
    | time t, time u => t.long ≤ u.long
    | _, _ => true

mutual

/-- The text of a value in messages. -/
def display : Value → String
  | null => "<nil>"
  | bool b => if b then "true" else "false"
  | text s => s
  | fixedInt n => toString n.toInt
  | float x => x.toText
  | time t => t.long
  | list items => "[" ++ String.intercalate " " (displayAll items) ++ "]"
  | map entries =>
    let shown := (displayEntries entries).mergeSort fun a b => !(b.1 < a.1)
    "map[" ++ String.intercalate " " (shown.map (·.2)) ++ "]"
  | table entries =>
    let shown := (displayPairs entries).mergeSort fun a b => a.1.keyLe b.1
    "map[" ++ String.intercalate " " (shown.map (·.2)) ++ "]"
  | foreign _ shown => shown

/-- The texts of the items of a list. -/
def displayAll : List Value → List String
  | [] => []
  | v :: vs => v.display :: displayAll vs

/-- The keys of a map with the texts of its entries. -/
def displayEntries : List (String × Value) → List (String × String)
  | [] => []
  | (k, v) :: r => (k, k ++ ":" ++ v.display) :: displayEntries r

/-- The keys of a table with the texts of its entries. -/
def displayPairs : List (Value × Value) → List (Value × String)
  | [] => []
  | (k, v) :: r => (k, k.display ++ ":" ++ v.display) :: displayPairs r

end

end Value

end ProtoSchema
