import ProtoSchema.Yaml.Token.Scalar

/-!
The tokens that go before nodes and documents: anchors and aliases, tags, and directives.
-/
namespace ProtoSchema.Yaml

/-! ## Anchors and aliases -/

/-- Reads the name after `&` or `*`. -/
def readAnchorName (c : Cursor) : Except SyntaxError (String × Cursor) :=
  let (name, c) := c.takeWhile isWordChar
  let closed := match c.rest with
    | [] => true
    | x :: _ => atGap c.rest || ['?', ':', ',', ']', '}', '%', '@', '`'].contains x
  if name.isEmpty || !closed then .error .badAnchor
  else .ok (String.ofList name, c)

/-! ## Tags -/

/-- Whether the character may stand in a tag. -/
def isTagChar (c : Char) : Bool :=
  isWordChar c || [';', '/', '?', ':', '@', '&', '=', '+', '$', ',', '.', '!', '~', '*', '\'',
    '(', ')', '[', ']', '%'].contains c

/-- Reads an octet written as `%` and two hexadecimal digits. -/
def readOctet (c : Cursor) : Except SyntaxError (Nat × Cursor) :=
  match c.rest with
  | '%' :: a :: b :: _ =>
    match hexNumber? [a, b] with
    | some n => .ok (n, c.advance 3)
    | none => .error .badTag
  | _ => .error .badTag

/-- Reads `count` more octets of a character whose bits so far are `code`. -/
def readTrailingOctets : (count : Nat) → (code : Nat) → Cursor → Except SyntaxError (Nat × Cursor)
  | 0, code, c => .ok (code, c)
  | count + 1, code, c => do
    let (n, c) ← readOctet c
    if n / 64 = 2 then readTrailingOctets count (64 * code + n % 64) c
    else .error .badTag

/-- Reads a character whose octets are written one by one. -/
def readOctets (c : Cursor) : Except SyntaxError (Char × Cursor) := do
  let (n, c) ← readOctet c
  let (count, code) ←
    if n < 128 then pure (0, n)
    else if n / 32 = 6 then pure (1, n % 32)
    else if n / 16 = 14 then pure (2, n % 16)
    else if n / 8 = 30 then pure (3, n % 8)
    else throw .badTag
  let (code, c) ← readTrailingOctets count code c
  pure (if code.isValidChar then Char.ofNat code else '\ufffd', c)

/-- Reads one character of a tag; `text` is what was read so far, last character first. -/
def tagStep (text : List Char) (c : Cursor) :
    Except SyntaxError (Progress (List Char) (List Char × Cursor)) :=
  match c.rest with
  | [] => .ok (.done (text, c))
  | x :: _ =>
    if x == '%' then do
      let (y, c) ← readOctets c
      .ok (.more (y :: text) c)
    else if isTagChar x then .ok (.more (x :: text) (c.advance 1))
    else .ok (.done (text, c))

/-- Reads the characters of a tag that follow those of `head`; both together may not be empty
unless `optional`. -/
def readTagText (optional : Bool) (head : List Char) (c : Cursor) :
    Except SyntaxError (String × Cursor) := do
  let (text, c') ← readAll tagStep head.reverse c
  if !optional && c'.place.left == c.place.left then throw .badTag
  pure (String.ofList text.reverse, c')

/-- Reads the part of a tag up to a second `!`, if there is one. -/
def readTagHandle (c : Cursor) : Except SyntaxError (List Char × Cursor) :=
  if c.looksAt '!' then
    let (name, c) := (c.advance 1).takeWhile isWordChar
    if c.looksAt '!' then .ok ('!' :: name ++ ['!'], c.advance 1)
    else .ok ('!' :: name, c)
  else .error .badTag

/-- Reads a tag as a handle and a suffix: verbatim as `!<suffix>`, as `!handle!suffix`, or as
`!suffix` with the handle `!`. A lone `!` is a suffix without a handle. -/
def readTag (c : Cursor) : Except SyntaxError (String × String × Cursor) := do
  let (handle, suffix, c) ←
    match c.rest with
    | '!' :: '<' :: _ => do
      let (suffix, c) ← readTagText false [] (c.advance 2)
      if !c.looksAt '>' then throw .badTag
      pure ("", suffix, c.advance 1)
    | _ => do
      let (handle, c) ← readTagHandle c
      if 1 < handle.length && handle.getLast? == some '!' then do
        let (suffix, c) ← readTagText false [] c
        pure (String.ofList handle, suffix, c)
      else do
        let (suffix, c) ← readTagText true (handle.drop 1) c
        pure (if suffix.isEmpty then ("", "!", c) else ("!", suffix, c))
  if atGap c.rest then pure (handle, suffix, c) else throw .badTag

/-! ## Directives -/

/-- Reads a part of a version number, one digit or two. -/
def readVersionPart (c : Cursor) : Except SyntaxError (Nat × Cursor) :=
  let (ds, c) := c.takeWhile Char.isDigit
  if ds.isEmpty || 2 < ds.length then .error .badDirective
  else .ok (ds.foldl (fun n d => 10 * n + (d.toNat - 48)) 0, c)

/-- Reads the version of a `%YAML` directive. -/
def readVersion (c : Cursor) : Except SyntaxError (TokenKind × Cursor) := do
  let (major, c) ← readVersionPart (c.dropWhile isBlank)
  if !c.looksAt '.' then throw .badDirective
  let (minor, c) ← readVersionPart (c.advance 1)
  pure (.versionDirective major minor, c)

/-- Reads the handle of a `%TAG` directive and what it stands for. -/
def readTagDirective (c : Cursor) : Except SyntaxError (TokenKind × Cursor) := do
  let (handle, c) ← readTagHandle (c.dropWhile isBlank)
  if handle ≠ ['!'] && handle.getLast? ≠ some '!' then throw .badDirective
  if !(c.rest.head?.any isBlank) then throw .badDirective
  let (stem, c) ← readTagText false [] (c.dropWhile isBlank)
  if !atGap c.rest then throw .badDirective
  pure (.tagDirective (String.ofList handle) stem, c)

/-- Reads a directive after its `%` with the rest of its line. -/
def readDirective (c : Cursor) : Except SyntaxError (TokenKind × Cursor) := do
  let (name, c) := c.takeWhile isWordChar
  if !atGap c.rest then throw .badDirective
  let (kind, c) ←
    if name == ['Y', 'A', 'M', 'L'] then readVersion c
    else if name == ['T', 'A', 'G'] then readTagDirective c
    else throw .badDirective
  let c := c.dropWhile isBlank
  let c := if c.looksAt '#' then c.dropWhile (fun x => !isBreak x) else c
  if !atLineEnd c.rest then throw .badDirective
  pure (kind, (c.takeBreak).2)

end ProtoSchema.Yaml
