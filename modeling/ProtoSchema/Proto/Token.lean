import ProtoSchema.Number.Decimal

/-!
Tokens of proto text. A text becomes a list of tokens, each with the number of characters that
stand before it. White space and comments separate tokens and are dropped. Where the text goes
wrong the list ends in an invalid token, which no rule of the grammar accepts.
-/
namespace ProtoSchema.Proto

open Number

/-- A token. The contents of string literals and of numbers with a fraction do not matter. -/
inductive Token where
  | word (name : String)
  | integer (n : Nat)
  | fraction
  | literal
  | symbol (c : Char)
  | invalid
deriving Repr, DecidableEq, Inhabited

namespace Token

/-! ## Characters -/

/-- Whether the character can start a word. -/
def isWordStart (c : Char) : Bool :=
  c == '_' || ('a' ≤ c && c ≤ 'z') || ('A' ≤ c && c ≤ 'Z')

/-- Whether the character can stand inside a word. -/
def isWordChar (c : Char) : Bool := isWordStart c || isDecimal c

/-- Whether the character separates tokens. -/
def isBlank (c : Char) : Bool := [' ', '\n', '\t', '\r', '\x0b', '\x0c'].contains c

/-- Whether the character is a token of its own. -/
def isSymbol (c : Char) : Bool :=
  [';', ',', '.', ':', '=', '-', '+', '(', ')', '\x7b', '\x7d', '[', ']', '<', '>', '/'].contains c

/-! ## Numbers -/

/-- The number of characters that go on with a number; a sign does only right after an `e`, and
`afterE` says whether the character before is one. -/
def numberLength (afterE : Bool) : List Char → Nat
  | [] => 0
  | c :: r =>
    if isWordChar c || c == '.' || (afterE && (c == '+' || c == '-')) then
      1 + numberLength (c == 'e' || c == 'E') r
    else 0

/-- The value of a hexadecimal digit. -/
def hexValue? (c : Char) : Option Nat :=
  if isDecimal c then some (c.toNat - 48)
  else if 'a' ≤ c && c ≤ 'f' then some (c.toNat - 87)
  else if 'A' ≤ c && c ≤ 'F' then some (c.toNat - 55)
  else none

/-- Reads digits of a base up to 16 after a number that is already read. -/
def digitsValue? (base : Nat) : (before : Nat) → List Char → Option Nat
  | before, [] => some before
  | before, c :: r =>
    match hexValue? c with
    | some d => if d < base then digitsValue? base (before * base + d) r else none
    | none => none

/-- Reads a whole number of some base that has at least one digit. -/
def whole? (base : Nat) (digits : List Char) : Option Nat :=
  if digits.isEmpty then none else digitsValue? base 0 digits

/-- A whole number has at most 64 bits. -/
def integerLimit : Nat := 0x10000000000000000

/-- Whether the characters are a decimal number, perhaps with a fraction and an exponent. -/
def isFraction (s : List Char) : Bool :=
  let whole := s.takeWhile isDecimal
  let (part, rest) :=
    match s.dropWhile isDecimal with
    | '.' :: r => (r.takeWhile isDecimal, r.dropWhile isDecimal)
    | r => ([], r)
  !(whole.isEmpty && part.isEmpty) &&
    match rest with
    | [] => true
    | c :: r =>
      let exponent :=
        match r with
        | '+' :: r => r
        | '-' :: r => r
        | r => r
      (c == 'e' || c == 'E') && !exponent.isEmpty && exponent.all isDecimal

/-- A fraction, if the characters are one. -/
def fraction? (s : List Char) : Option Token := if isFraction s then some fraction else none

/-- An integer, if there is one and it is not too large. -/
def integer? (n : Option Nat) : Option Token :=
  match n with
  | some n => if n < integerLimit then some (integer n) else none
  | none => none

/-- The token that a number is: hexadecimal after `0x`, octal after another `0`, decimal, or a
fraction, which a decimal number that is too large also is. -/
def ofNumber? (s : List Char) : Option Token :=
  match s with
  | '0' :: 'x' :: r => integer? (whole? 16 r)
  | '0' :: 'X' :: r => integer? (whole? 16 r)
  | _ =>
    if s.any fun c => c == '.' || c == 'e' || c == 'E' then fraction? s
    else if s.head? = some '0' then integer? (whole? 8 s)
    else (whole? 10 s).map fun n => if n < integerLimit then integer n else fraction

end Token

end ProtoSchema.Proto
