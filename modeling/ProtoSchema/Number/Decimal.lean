import ProtoSchema.Number.Binary64

/-!
Decimal text of floating-point numbers. Reading rounds to the nearest number. Writing takes the
fewest digits that read back, the nearest of them to the number, and an exponent for very small
and large numbers.
-/
namespace ProtoSchema.Number

/-- Whether the character is an ASCII digit. -/
def isDecimal (c : Char) : Bool := '0' ≤ c && c ≤ '9'

/-- The number that a run of decimal digits writes. -/
def ofDigits (ds : List Char) : Nat :=
  ds.foldl (fun n c => 10 * n + (c.toNat - 48)) 0

/-- The decimal digits of a number. -/
def digits (n : Nat) : List Char := Nat.toDigits 10 n

/-- The decimal text of a number, filled up with zeros to at least `width` digits. -/
def padded (width n : Nat) : List Char :=
  let ds := digits n
  List.replicate (width - ds.length) '0' ++ ds

/-- Splits off a sign; the flag says that it is a minus. -/
def takeSign : List Char → Bool × List Char
  | '-' :: r => (true, r)
  | '+' :: r => (false, r)
  | r => (false, r)

namespace Binary64

/-- The number nearest to `± mantissa · 10 ^ exponent`. -/
def ofScientific (negative : Bool) (mantissa : Nat) (exponent : Int) : Binary64 :=
  if mantissa = 0 then finite negative 0 0
  else
    let size : Int := (digits mantissa).length + exponent
    if size > 310 then infinite negative
    else if size < -330 then finite negative 0 0
    else
      match exponent with
      | .ofNat k => ofRatio negative (mantissa * Nat.pow 10 k) 1
      | .negSucc k => ofRatio negative mantissa (Nat.pow 10 (k + 1))

/-- The exponent part of a decimal: nothing, or `e`, a sign and digits, up to the end. -/
def exponentPart? : List Char → Option Int
  | [] => some 0
  | c :: r =>
    if c == 'e' || c == 'E' then
      let (negative, ds) := takeSign r
      if ds.isEmpty || !ds.all isDecimal then none
      else some (if negative then -(ofDigits ds : Int) else ofDigits ds)
    else none

/-- Reads a decimal: a sign, digits with at most one point among or around them, an exponent. -/
def ofDecimal? (s : List Char) : Option Binary64 :=
  let (negative, r) := takeSign s
  let whole := r.takeWhile isDecimal
  let r := r.dropWhile isDecimal
  let (fraction, r) := match r with
    | '.' :: r => (r.takeWhile isDecimal, r.dropWhile isDecimal)
    | r => ([], r)
  if whole.isEmpty && fraction.isEmpty then none
  else
    (exponentPart? r).map fun e =>
      ofScientific negative (ofDigits (whole ++ fraction)) (e - fraction.length)

/-- Reads a decimal or one of the names `NaN`, `Inf` and `Infinity` in any case, the infinities
with an optional sign. -/
def ofText? (s : String) : Option Binary64 :=
  let (negative, r) := takeSign s.toList
  let name := String.ofList (r.map Char.toLower)
  if name == "inf" || name == "infinity" then some (infinite negative)
  else if s.toLower == "nan" then some nan
  else ofDecimal? s.toList

/-- How often a number below one must be multiplied by ten to reach one. -/
def leadingZeros : (fuel : Nat) → (num den : Nat) → Nat
  | 0, _, _ => 0
  | fuel + 1, num, den => if den ≤ num then 0 else leadingZeros fuel (10 * num) den + 1

/-- The exponent of the first decimal digit of `num / den`. -/
def decimalExponent (num den : Nat) : Int :=
  if den ≤ num then ((digits (num / den)).length : Int) - 1
  else -(leadingZeros 400 num den : Int)

/-- `c · 10 ^ s` as a numerator and a denominator. -/
def gridPoint (c : Nat) (s : Int) : Nat × Nat :=
  match s with
  | .ofNat k => (c * Nat.pow 10 k, 1)
  | .negSucc k => (c, Nat.pow 10 (k + 1))

/-- Whether `a ≤ b` for two quotients, strictly if `strict`. -/
def ratioLe (strict : Bool) (a b : Nat × Nat) : Bool :=
  if strict then a.1 * b.2 < b.1 * a.2 else a.1 * b.2 ≤ b.1 * a.2

/-- Tries decimals of `count`, `count + 1`, … digits and takes the first that lies between `low`
and `high`; of two such neighbours of `value` the nearer, of equally near ones the even. The
result is `(c, s)` for the decimal `c · 10 ^ s`. -/
def shortestFrom (strict : Bool) (low value high : Nat × Nat) (top : Int) :
    (fuel : Nat) → (count : Int) → Nat × Int
  | 0, _ => (0, 0)
  | fuel + 1, count =>
    let s := top - count + 1
    let (un, ud) := gridPoint 1 s
    let below := value.1 * ud / (value.2 * un)
    let inside (c : Nat) : Bool :=
      let p := gridPoint c s
      0 < c && ratioLe strict low p && ratioLe strict p high
    let middle := gridPoint (2 * below + 1) s
    let left := 2 * value.1 * middle.2
    let right := middle.1 * value.2
    let nearer := if left < right then below else if right < left then below + 1
      else if below % 2 == 0 then below else below + 1
    if inside below && inside (below + 1) then (nearer, s)
    else if inside below then (below, s)
    else if inside (below + 1) then (below + 1, s)
    else shortestFrom strict low value high top fuel (count + 1)

/-- The shortest decimal that reads back as `m · 2 ^ e`, as `(c, s)` for `c · 10 ^ s`. -/
def shortest (m : Nat) (e : Int) : Nat × Int :=
  let value := magnitude (4 * m) (e - 2)
  let high := magnitude (4 * m + 2) (e - 2)
  let low := magnitude (4 * m - (if m = Nat.pow 2 52 && e > minExponent then 1 else 2)) (e - 2)
  shortestFrom (m % 2 == 1) low value high (decimalExponent value.1 value.2) 17 1

/-- The text of `0.d₁d₂… · 10 ^ point` for digits `d₁d₂…`: an exponent is written when the first
digit has an exponent below -4 or from 6 on. -/
def layout (ds : List Char) (point : Int) : List Char :=
  let e := point - 1
  if e < -4 || e ≥ 6 then
    let tail := ds.drop 1
    ds.take 1 ++ (if tail.isEmpty then [] else '.' :: tail) ++
      ['e', if e < 0 then '-' else '+'] ++ padded 2 e.natAbs
  else if point ≤ 0 then ['0', '.'] ++ List.replicate point.natAbs '0' ++ ds
  else
    let whole := ds.take point.toNat
    let fraction := ds.drop point.toNat
    whole ++ List.replicate (point.toNat - whole.length) '0' ++
      (if fraction.isEmpty then [] else '.' :: fraction)

/-- The decimal text of a number. -/
def toText : Binary64 → String
  | nan => "NaN"
  | infinite negative => if negative then "-Inf" else "+Inf"
  | finite negative m e =>
    let sign := if negative then ['-'] else []
    if m = 0 then String.ofList (sign ++ ['0'])
    else
      let (c, s) := shortest m e
      let ds := digits c
      let kept := (ds.reverse.dropWhile (· == '0')).reverse
      String.ofList (sign ++ layout kept (ds.length + s))

end Binary64

end ProtoSchema.Number
