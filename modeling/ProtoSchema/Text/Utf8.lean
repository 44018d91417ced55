/-!
Texts as octets in UTF-8. Octets that are no character are read as the replacement character
U+FFFD, one for each.
-/
namespace ProtoSchema.Text

/-- Reads the character that starts a list of octets; `none` if they start with no character. -/
def firstChar? : List Nat → Option (Char × List Nat)
  | a :: r =>
    if a < 0x80 then some (Char.ofNat a, r)
    else
      let trailing (n : Nat) : Bool := n / 64 == 2
      match r with
      | b :: r₁ =>
        if a / 32 == 6 && trailing b then
          let code := a % 32 * 64 + b % 64
          if 0x80 ≤ code then some (Char.ofNat code, r₁) else none
        else
          match r₁ with
          | c :: r₂ =>
            if a / 16 == 14 && trailing b && trailing c then
              let code := (a % 16 * 64 + b % 64) * 64 + c % 64
              if 0x800 ≤ code && code.isValidChar then some (Char.ofNat code, r₂) else none
            else
              match r₂ with
              | d :: r₃ =>
                let code := ((a % 8 * 64 + b % 64) * 64 + c % 64) * 64 + d % 64
                if a / 8 == 30 && trailing b && trailing c && trailing d && 0x10000 ≤ code
                  && code.isValidChar then some (Char.ofNat code, r₃) else none
              | [] => none
          | [] => none
      | [] => none
  | [] => none

/-- Reads octets as characters, at most `fuel` of them. -/
def ofOctetsFrom : (fuel : Nat) → List Nat → List Char
  | 0, _ => []
  | fuel + 1, octets =>
    match octets with
    | [] => []
    | _ :: r =>
      match firstChar? octets with
      | some (c, rest) => c :: ofOctetsFrom fuel rest
      | none => '\ufffd' :: ofOctetsFrom fuel r

/-- Reads octets as characters. -/
def ofOctets (octets : List Nat) : List Char := ofOctetsFrom octets.length octets

/-- The first `n` octets of a text; a character that they cut leaves its octets. -/
def firstOctets (n : Nat) : List Char → List Char
  | [] => []
  | c :: r =>
    if c.utf8Size ≤ n then c :: firstOctets (n - c.utf8Size) r
    else List.replicate n '\ufffd'

/-- The value of a digit of the base-64 alphabet. -/
def base64Digit? (c : Char) : Option Nat :=
  if 'A' ≤ c && c ≤ 'Z' then some (c.toNat - 65)
  else if 'a' ≤ c && c ≤ 'z' then some (c.toNat - 71)
  else if '0' ≤ c && c ≤ '9' then some (c.toNat + 4)
  else if c == '+' then some 62
  else if c == '/' then some 63
  else none

/-- Reads groups of four base-64 digits, the last filled up with `=`. -/
def base64Groups? : List Char → Option (List Nat)
  | [] => some []
  | [a, b, '=', '='] => do
    let x ← base64Digit? a
    let y ← base64Digit? b
    some [x * 4 + y / 16]
  | [a, b, c, '='] => do
    let x ← base64Digit? a
    let y ← base64Digit? b
    let z ← base64Digit? c
    some [x * 4 + y / 16, y % 16 * 16 + z / 4]
  | a :: b :: c :: d :: r => do
    let x ← base64Digit? a
    let y ← base64Digit? b
    let z ← base64Digit? c
    let w ← base64Digit? d
    let rest ← base64Groups? r
    some ([x * 4 + y / 16, y % 16 * 16 + z / 4, z % 4 * 64 + w] ++ rest)
  | _ => none

/-- The text whose octets are written in base 64; line ends are ignored. -/
def ofBase64? (s : String) : Option String :=
  (base64Groups? (s.toList.filter fun c => c != '\n' && c != '\r')).map
    fun octets => String.ofList (ofOctets octets)

end ProtoSchema.Text
