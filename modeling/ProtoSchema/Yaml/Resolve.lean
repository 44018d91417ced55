import ProtoSchema.Text.Utf8
import ProtoSchema.Value

/-!
The meaning of scalars. A tag says what a scalar is; without one the text decides whether it is
nothing, a truth value, a number, a point in time or plain text.
-/
namespace ProtoSchema.Yaml

open Number

namespace Tag

/-- The tag of plain text. -/
def str : String := "!!str"

/-- The tag of truth values. -/
def bool : String := "!!bool"

/-- The tag of integers. -/
def int : String := "!!int"

/-- The tag of floating-point numbers. -/
def float : String := "!!float"

/-- The tag of nothing. -/
def null : String := "!!null"

/-- The tag of points in time. -/
def timestamp : String := "!!timestamp"

/-- The tag of octets written in base 64. -/
def binary : String := "!!binary"

/-- The tag of the key that merges another mapping. -/
def merge : String := "!!merge"

/-- The tag of sequences. -/
def seq : String := "!!seq"

/-- The tag of mappings. -/
def map : String := "!!map"

/-- What the handle `!!` stands for. -/
def standardStem : String := "tag:yaml.org,2002:"

/-- A tag with its standard stem shortened to `!!`. -/
def short (tag : String) : String :=
  if tag.startsWith standardStem then
    "!!" ++ String.ofList (tag.toList.drop standardStem.length)
  else tag

/-- Whether the tag names a kind of scalar that texts can be. -/
def isScalarKind (tag : String) : Bool :=
  tag == "" || [str, bool, int, float, null, timestamp].contains tag

end Tag

/-! ## Integers -/

/-- The value of a digit, letters counting from ten. -/
def letterDigit? (c : Char) : Option Nat :=
  if '0' ≤ c && c ≤ '9' then some (c.toNat - 48)
  else if 'a' ≤ c && c ≤ 'z' then some (c.toNat - 87)
  else if 'A' ≤ c && c ≤ 'Z' then some (c.toNat - 55)
  else none

/-- The number that digits of a base write; no digits write zero. -/
def natInBase? (base : Nat) (ds : List Char) : Option Nat :=
  ds.foldlM (fun n c => do
    let d ← letterDigit? c
    if d < base then some (base * n + d) else none) 0

/-- A natural number with an optional mark for its base: `0b`, `0o`, `0x`, or a leading zero for
octal. -/
def prefixedNat? (s : List Char) : Option Nat :=
  match s with
  | [] => none
  | '0' :: b :: d :: r =>
    if b == 'b' || b == 'B' then natInBase? 2 (d :: r)
    else if b == 'o' || b == 'O' then natInBase? 8 (d :: r)
    else if b == 'x' || b == 'X' then natInBase? 16 (d :: r)
    else natInBase? 8 (b :: d :: r)
  | '0' :: r => natInBase? 8 r
  | _ => natInBase? 10 s

/-- A signed 64-bit integer from a sign and a magnitude. -/
def signed64? (negative : Bool) (n : Nat) : Option Int :=
  if negative then (if n ≤ 0x8000000000000000 then some (-(n : Int)) else none)
  else if n < 0x8000000000000000 then some n else none

/-- A signed integer with an optional mark for its base. -/
def prefixedInt? (s : List Char) : Option Int :=
  let (negative, r) := takeSign s
  (prefixedNat? r).bind (signed64? negative)

/-- A signed integer in a base. -/
def intInBase? (base : Nat) (s : List Char) : Option Int :=
  let (negative, r) := takeSign s
  if r.isEmpty then none else (natInBase? base r).bind (signed64? negative)

/-- The integer after `mark`, itself after an optional minus, in a base. -/
def markedInt? (mark : List Char) (base : Nat) (s : List Char) : Option Int :=
  if mark.isPrefixOf s then intInBase? base (s.drop mark.length)
  else if ('-' :: mark).isPrefixOf s then intInBase? base ('-' :: s.drop (mark.length + 1))
  else none

/-! ## Floating-point numbers -/

/-- Whether every underscore stands between two digits. -/
def underscoresBetweenDigits : (afterDigit : Bool) → List Char → Bool
  | _, [] => true
  | afterDigit, c :: r =>
    if c == '_' then afterDigit && r.head?.any isDecimal && underscoresBetweenDigits false r
    else underscoresBetweenDigits (isDecimal c) r

/-- A decimal in the range of finite numbers. -/
def finiteDecimal? (s : List Char) : Option Binary64 :=
  match Binary64.ofDecimal? s with
  | some (.infinite _) => none
  | x => x

/-! ## Scalars -/

/-- Words that are values. -/
def wordValue? (s : String) : Option (String × Value) :=
  if ["", "~", "null", "Null", "NULL"].contains s then some (Tag.null, .null)
  else if ["true", "True", "TRUE"].contains s then some (Tag.bool, .bool true)
  else if ["false", "False", "FALSE"].contains s then some (Tag.bool, .bool false)
  else if [".nan", ".NaN", ".NAN"].contains s then some (Tag.float, .float .nan)
  else if [".inf", ".Inf", ".INF", "+.inf", "+.Inf", "+.INF"].contains s then
    some (Tag.float, .float (.infinite false))
  else if ["-.inf", "-.Inf", "-.INF"].contains s then some (Tag.float, .float (.infinite true))
  else none

/-- A floating-point number, or an integer with a sign after the mark of its base. -/
def otherNumber? (plain : List Char) : Option (String × Value) :=
  match finiteDecimal? plain, markedInt? ['0', 'b'] 2 plain, markedInt? ['0', 'o'] 8 plain with
  | some x, _, _ => some (Tag.float, .float x)
  | none, some n, _ => some (Tag.int, .integer .int n)
  | none, none, some n => some (Tag.int, .integer .int n)
  | none, none, none => none

/-- The number that a text writes once its underscores are dropped. -/
def numberValue? (s : List Char) : Option (String × Value) :=
  let plain := s.filter (· != '_')
  match prefixedInt? plain with
  | some n => some (Tag.int, .integer .int n)
  | none =>
    match prefixedNat? plain with
    | some n =>
      if n < 0x10000000000000000 then some (Tag.int, .integer .uint64 n) else otherNumber? plain
    | none => otherNumber? plain

/-- What a text that is not marked as plain text is, and its tag. Points in time are tried unless
another tag is given. -/
def guess (tag text : String) : String × Value :=
  match wordValue? text with
  | some r => r
  | none =>
    let s := text.toList
    let asText := (Tag.str, Value.text text)
    match s with
    | [] => asText
    | c :: _ =>
      if c == '.' then
        if underscoresBetweenDigits false s then
          match finiteDecimal? (s.filter (· != '_')) with
          | some x => (Tag.float, .float x)
          | none => asText
        else asText
      else if isDecimal c || c == '+' || c == '-' then
        let time := if tag == "" || tag == Tag.timestamp then Timestamp.parse? s else none
        match time with
        | some t => (Tag.timestamp, .time t)
        | none => (numberValue? s).getD asText
      else asText

/-- The tag and value of a scalar. An unknown tag leaves a text; a known one must fit what the text
is, except that integers are also floating-point numbers. -/
def resolve? (tag text : String) : Option (String × Value) :=
  if !Tag.isScalarKind tag then some (tag, .text text)
  else if tag == Tag.str then some (Tag.str, .text text)
  else
    let (found, value) := guess tag text
    if tag == "" || tag == found then some (found, value)
    else
      match value with
      | .fixedInt (.int n) =>
        if tag == Tag.float then some (Tag.float, .float (Binary64.ofInt n.toInt)) else none
      | _ => none

end ProtoSchema.Yaml
