import ProtoSchema.Proto.Token

/-!
From proto text to tokens. A step looks at a character and at what follows it, and says how far the
blank, comment or token goes that starts there.
-/
namespace ProtoSchema.Proto.Token

/-! ## Escapes in literals -/

/-- Reads hexadecimal digits after an optional sign. -/
def signedHex? (s : List Char) : Option Int :=
  match s with
  | '+' :: r => (whole? 16 r).map Int.ofNat
  | '-' :: r => (whole? 16 r).map fun n => -Int.ofNat n
  | s => (whole? 16 s).map Int.ofNat

/-- How far an escape of `count` hexadecimal digits goes, after the letter that starts it, and
whether it stands for a character; `none` if the text ends in it. -/
def unicodeEscape (quote : Char) (count : Nat) (s : List Char) : Option (Nat × Bool) :=
  let digits := (s.take count).takeWhile fun c => c != quote && c != '\\'
  if digits.length = count then
    match signedHex? digits with
    | some n => some (count + 1, count < 8 || (0 ≤ n && n ≤ 0x10ffff))
    | none => some (count + 1, false)
  else if digits.length < s.length then some (digits.length + 1, false)
  else none

/-- How far an escape of one or two hexadecimal digits goes. -/
def hexEscape (quote : Char) : List Char → Option (Nat × Bool)
  | [] => none
  | a :: r =>
    if a == quote || a == '\\' then some (1, false)
    else
      match r with
      | [] => none
      | b :: _ =>
        let digits := if (hexValue? b).isSome then [a, b] else [a]
        some (digits.length + 1, (signedHex? digits).isSome)

/-- Whether the character is an octal digit. -/
def isOctal (c : Char) : Bool := '0' ≤ c && c ≤ '7'

/-- How far an escape of one to three octal digits goes; `a` is the first of them. -/
def octalEscape (a : Char) : List Char → Option (Nat × Bool)
  | [] => none
  | b :: r =>
    if isOctal b then
      match r with
      | [] => none
      | c :: _ => if isOctal c then some (3, a ≤ '3') else some (2, true)
    else some (1, true)

/-- How far an escape goes, after the backslash, and whether it stands for a character; `none` if
the text ends in it. -/
def escape (quote : Char) : List Char → Option (Nat × Bool)
  | [] => none
  | c :: r =>
    if c == 'x' || c == 'X' then hexEscape quote r
    else if isOctal c then octalEscape c r
    else if c == 'u' then unicodeEscape quote 4 r
    else if c == 'U' then unicodeEscape quote 8 r
    else some (1, ['a', 'b', 'f', 'n', 'r', 't', 'v', '\\', '\'', '"', '?'].contains c)

/-! ## Literals and comments -/

/-- What a literal turns out to be: closed after a number of characters, or faulty at one. -/
inductive Extent where
  | closed (length : Nat)
  | faulty (offset : Nat)
deriving Repr, DecidableEq, Inhabited

/-- Where a literal is faulty that does not end in its line: at its start, or at the first of
several bad escapes. -/
def unended : (bad : List Nat) → Nat
  | first :: _ :: _ => first
  | _ => 0

/-- Looks for the end of a literal. `skip` characters are known to belong to an escape, `offset`
characters have been seen, and there is a bad character or escape at each of `bad`. -/
def literalExtent (quote : Char) :
    (skip offset : Nat) → (bad : List Nat) → List Char → Extent
  | skip + 1, offset, bad, _ :: r => literalExtent quote skip (offset + 1) bad r
  | 0, offset, bad, c :: r =>
    if c == '\n' then .faulty (unended bad)
    else if c == quote then
      match bad with
      | [] => .closed (offset + 1)
      | first :: _ => .faulty first
    else if c == '\\' then
      match escape quote r with
      | none => .faulty (unended bad)
      | some (n, true) => literalExtent quote n (offset + 1) bad r
      | some (n, false) => literalExtent quote n (offset + 1) (bad ++ [offset]) r
    else if c == '\x00' then literalExtent quote 0 (offset + 1) (bad ++ [offset]) r
    else literalExtent quote 0 (offset + 1) bad r
  | _, _, bad, [] => .faulty (unended bad)

/-- The length of a block comment after its start, if it ends; it cannot hold a NUL. -/
def blockLength? : List Char → Option Nat
  | [] => none
  | '*' :: '/' :: _ => some 2
  | c :: r => if c == '\x00' then none else (blockLength? r).map (· + 1)

/-! ## Steps -/

/-- What starts at a character: something between tokens or a token, with the number of characters
that follow the first, or a fault, with its distance from the first. -/
inductive Step where
  | gap (more : Nat)
  | token (t : Token) (more : Nat)
  | fault (distance : Nat)
deriving Repr, DecidableEq, Inhabited

/-- A number. -/
def numberStep (c : Char) (r : List Char) : Step :=
  let more := numberLength (c == 'e' || c == 'E') r
  match ofNumber? (c :: r.take more) with
  | some t => .token t more
  | none => .fault 0

/-- A comment or a slash. -/
def slashStep : List Char → Step
  | '/' :: r =>
    let line := r.takeWhile (· != '\n')
    if line.contains '\x00' then .fault 0 else .gap (line.length + 1)
  | '*' :: r =>
    match blockLength? r with
    | some n => .gap (n + 1)
    | none => .fault 0
  | _ => .token (symbol '/') 0

/-- What starts at the character `c`, which `r` follows. -/
def step (c : Char) (r : List Char) : Step :=
  if isBlank c then .gap 0
  else if isWordStart c then
    let more := r.takeWhile isWordChar
    .token (word (String.ofList (c :: more))) more.length
  else if Number.isDecimal c then numberStep c r
  else if c == '.' && (r.head?.any Number.isDecimal) then numberStep c r
  else if c == '"' || c == '\'' then
    match literalExtent c 0 1 [] r with
    | .closed n => .token literal (n - 1)
    | .faulty n => .fault n
  else if c == '/' then slashStep r
  else if isSymbol c then .token (symbol c) 0
  else .fault 0

/-- The tokens of a text that follows `offset` characters. -/
def scanFrom (offset : Nat) : List Char → List (Token × Nat)
  | [] => []
  | c :: r =>
    match step c r with
    | .gap more => scanFrom (offset + more + 1) (r.drop more)
    | .token t more => (t, offset) :: scanFrom (offset + more + 1) (r.drop more)
    | .fault distance => [(invalid, offset + distance)]
termination_by s => s.length
decreasing_by
  all_goals simp only [List.length_drop, List.length_cons]; omega

/-- The tokens of a text, each with the number of characters before it. -/
def scan (s : List Char) : List (Token × Nat) := scanFrom 0 s

end ProtoSchema.Proto.Token
