/-!
Binary floating-point numbers of 64 bits, kept as sign, significand and exponent so that their
exact value is in view, and the rounding of a quotient to the nearest of them.
-/
namespace ProtoSchema.Number

/-- A floating-point number; the finite ones are `± significand · 2 ^ exponent`. -/
inductive Binary64 where
  | nan
  | infinite (negative : Bool)
  | finite (negative : Bool) (significand : Nat) (exponent : Int)
deriving Repr, DecidableEq, Inhabited

/-- The quotient `num / den` rounded to an integer, a half going to the even neighbour. -/
def roundHalfEven (num den : Nat) : Nat :=
  let q := num / den
  let r := num % den
  if 2 * r < den then q
  else if den < 2 * r then q + 1
  else if q % 2 == 0 then q else q + 1

namespace Binary64

/-- The least exponent of a finite number. -/
def minExponent : Int := -1074

/-- The greatest exponent of a finite number. -/
def maxExponent : Int := 971

/-- `num / den / 2 ^ e` as a pair of naturals. -/
def scale (num den : Nat) (e : Int) : Nat × Nat :=
  match e with
  | .ofNat k => (num, den * Nat.pow 2 k)
  | .negSucc k => (num * Nat.pow 2 (k + 1), den)

/-- The exponent at which `num / den` has a significand of full width, or the least one. -/
def exponentFor (num den : Nat) : Int :=
  let e : Int := (Nat.log2 num : Int) - (Nat.log2 den : Int) - 52
  let (n, d) := scale num den e
  max (if n / d < Nat.pow 2 52 then e - 1 else e) minExponent

/-- The nearest number to `± num / den`, a half going to the even significand; infinite past the
greatest finite number. -/
def ofRatio (negative : Bool) (num den : Nat) : Binary64 :=
  if num = 0 then finite negative 0 0
  else
    let e := exponentFor num den
    let (n, d) := scale num den e
    let m := roundHalfEven n d
    let (m, e) := if m = Nat.pow 2 53 then (Nat.pow 2 52, e + 1) else (m, e)
    if e > maxExponent then infinite negative
    else if m = 0 then finite negative 0 0
    else finite negative m e

/-- The integer `n` as the nearest number. -/
def ofInt (n : Int) : Binary64 := ofRatio (n < 0) n.natAbs 1

/-- The numerator and denominator of the magnitude `significand · 2 ^ exponent`. -/
def magnitude (significand : Nat) (exponent : Int) : Nat × Nat :=
  match exponent with
  | .ofNat k => (significand * Nat.pow 2 k, 1)
  | .negSucc k => (significand, Nat.pow 2 (k + 1))

/-- The number with its fraction cut off; `none` if it is not finite. -/
def truncate : Binary64 → Option Int
  | finite negative m e =>
    let (n, d) := magnitude m e
    some (if negative then -((n / d : Nat) : Int) else ((n / d : Nat) : Int))
  | _ => none

/-- The integer that the number equals; `none` if it has a fraction or is not finite. -/
def toInt? : Binary64 → Option Int
  | finite negative m e =>
    let (n, d) := magnitude m e
    if n % d = 0 then some (if negative then -((n / d : Nat) : Int) else ((n / d : Nat) : Int))
    else none
  | _ => none

/-- Numerical equality: a NaN equals nothing and the two zeros are equal. -/
def equals : Binary64 → Binary64 → Bool
  | nan, _ => false
  | _, nan => false
  | infinite a, infinite b => a == b
  | finite a m e, finite b n f => (m == 0 && n == 0) || (a == b && m == n && e == f)
  | _, _ => false

/-- Numerical order, with a NaN before everything. -/
def lessThan : Binary64 → Binary64 → Bool
  | nan, nan => false
  | nan, _ => true
  | _, nan => false
  | infinite a, infinite b => a && !b
  | infinite a, finite .. => a
  | finite .., infinite b => !b
  | finite a m e, finite b n f =>
    let (x, xd) := magnitude m e
    let (y, yd) := magnitude n f
    let left : Int := (if a then -1 else 1) * ((x * yd : Nat) : Int)
    let right : Int := (if b then -1 else 1) * ((y * xd : Nat) : Int)
    left < right

end Binary64

end ProtoSchema.Number
