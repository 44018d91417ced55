import ProtoSchema.Yaml.Token.Property

/-!
From a YAML text to its tokens. Blocks are opened and closed by indentation. A key without `?` is
recognised only at the `:` after it, so its `key` token is put in front of it then; until then it
is a candidate.
-/
namespace ProtoSchema.Yaml

/-- A node that becomes a key if a `:` follows on its line, not too far away. -/
structure Candidate where
  required : Bool
  token : Nat
  place : Place
deriving Inhabited

/-- Whether a `:` at the place `p` makes the candidate a key. -/
def Candidate.reaches (k : Candidate) (p : Place) : Bool :=
  k.place.line == p.line && k.place.left ≤ p.left + 1024

/-- The state of a scan. `floor` is the least column of content in the innermost block, zero
outside of all blocks, and `floors` has those of the blocks around it. There is one candidate, or
none, for every level of flow collections, the innermost first. -/
structure Scanner where
  cursor : Cursor
  tokens : Array Token := #[]
  floor : Nat := 0
  floors : List Nat := []
  candidates : List (Option Candidate) := [none]
  keyAllowed : Bool := true

namespace Scanner

/-- Whether the scan is inside a flow collection. -/
def inFlow (s : Scanner) : Bool := 1 < s.candidates.length

/-- Collections may be nested this deep. -/
def maxDepth : Nat := 10000

/-- Adds a token that starts at the cursor. -/
def push (s : Scanner) (kind : TokenKind) : Scanner :=
  { s with tokens := s.tokens.push ⟨kind, s.cursor.place.line⟩ }

/-- Moves over `n` characters. -/
def advance (s : Scanner) (n : Nat) : Scanner := { s with cursor := s.cursor.advance n }

/-- Closes the blocks whose floor lies beyond `limit`, which is one of `floors`. -/
def closeFloors (limit : Nat) (line : Nat) :
    (floor : Nat) → (floors : List Nat) → Array Token → Nat × List Nat × Array Token
  | floor, [], tokens => (floor, [], tokens)
  | floor, outer :: floors, tokens =>
    if limit < floor then closeFloors limit line outer floors (tokens.push ⟨.blockEnd, line⟩)
    else (floor, outer :: floors, tokens)

/-- Closes blocks until the floor is at most `limit`; flow collections have no blocks. -/
def closeBlocks (s : Scanner) (limit : Nat) : Scanner :=
  if s.inFlow then s
  else
    let (floor, floors, tokens) := closeFloors limit s.cursor.place.line s.floor s.floors s.tokens
    { s with floor := floor, floors := floors, tokens := tokens }

/-- Opens a block at a column if its content lies deeper than that of the current one; the token
goes to the position `index`. -/
def openBlock (s : Scanner) (column index : Nat) (token : Token) : Except SyntaxError Scanner :=
  if s.inFlow || column < s.floor then .ok s
  else if maxDepth ≤ s.floors.length then .error .tooDeep
  else .ok { s with
    floor := column + 1, floors := s.floor :: s.floors,
    tokens := s.tokens.insertIdxIfInBounds index token }

/-- Opens a block at the cursor if it lies deeper than the current one. -/
def openHere (s : Scanner) (kind : TokenKind) : Except SyntaxError Scanner :=
  s.openBlock s.cursor.place.column s.tokens.size ⟨kind, s.cursor.place.line⟩

/-- Gives up the candidate of this level; it is an error if a key has to stand there. -/
def dropCandidate (s : Scanner) : Except SyntaxError Scanner :=
  match s.candidates with
  | some k :: rest =>
    if k.required then .error .missingColon else .ok { s with candidates := none :: rest }
  | _ => .ok s

/-- Makes the node at the cursor the candidate of this level if a key may stand here. -/
def saveCandidate (s : Scanner) : Except SyntaxError Scanner := do
  if s.keyAllowed then
    let place := s.cursor.place
    let candidate : Candidate :=
      { required := !s.inFlow && s.floor == place.column + 1, token := s.tokens.size, place := place }
    let s ← s.dropCandidate
    pure { s with candidates := some candidate :: s.candidates.drop 1 }
  else pure s

/-- Passes over comments and the blank lines between them, up to the end of the last one. -/
def commentStep (_ : Unit) (c : Cursor) : Except SyntaxError (Progress Unit Cursor) := do
  let c := c.dropWhile (fun x => !isBreak x)
  let (_, next) ← readGap 0 c.rest c.place {}
  if next.looksAt '#' then pure (.more () next) else pure (.done c)

/-- Passes over a comment if one starts here. -/
def skipComments (c : Cursor) : Except SyntaxError Cursor :=
  if c.looksAt '#' then readAll commentStep () c else .ok c

/-- Passes over the blanks and comments of one line. A tab is no blank where a key may stand. -/
def gapStep (inFlow : Bool) (keyAllowed : Bool) (c : Cursor) :
    Except SyntaxError (Progress Bool (Bool × Cursor)) := do
  let c := c.dropWhile fun x => x == ' ' || ((inFlow || !keyAllowed) && x == '\t')
  let c ← skipComments c
  if !c.rest.isEmpty && atLineEnd c.rest then
    pure (.more (!inFlow || keyAllowed) (c.takeBreak).2)
  else pure (.done (keyAllowed, c))

/-- Moves to the next token; a key may stand at the start of a line outside flow collections. -/
def skipGap (s : Scanner) : Except SyntaxError Scanner := do
  let (keyAllowed, cursor) ← readAll (gapStep s.inFlow) s.keyAllowed s.cursor
  pure { s with cursor := cursor, keyAllowed := keyAllowed }

/-- Passes over a comment that follows a token on its line. -/
def skipLineComment (s : Scanner) : Except SyntaxError Scanner := do
  let c := s.cursor.dropWhile isBlank
  if c.looksAt '#' then pure { s with cursor := c.dropWhile (fun x => !isBreak x) }
  else pure s

/-! ## Single tokens -/

/-- A document mark. -/
def documentMark (s : Scanner) (kind : TokenKind) : Except SyntaxError Scanner := do
  let s ← (s.closeBlocks 0).dropCandidate
  pure ({ s with keyAllowed := false }.push kind |>.advance 3)

/-- A directive. -/
def directive (s : Scanner) : Except SyntaxError Scanner := do
  let s ← (s.closeBlocks 0).dropCandidate
  let (kind, cursor) ← readDirective (s.cursor.advance 1)
  pure { s.push kind with cursor := cursor, keyAllowed := false }

/-- The start of a flow collection. -/
def flowStart (s : Scanner) (kind : TokenKind) : Except SyntaxError Scanner := do
  let s ← s.saveCandidate
  if maxDepth < s.candidates.length then throw .tooDeep
  let s := { s with candidates := none :: s.candidates, keyAllowed := true }
  pure ((s.push kind).advance 1)

/-- The end of a flow collection. -/
def flowEnd (s : Scanner) (kind : TokenKind) : Except SyntaxError Scanner := do
  let s ← s.dropCandidate
  let outer := if s.inFlow then s.candidates.drop 1 else s.candidates
  let s := { s with candidates := outer, keyAllowed := false }
  pure ((s.push kind).advance 1)

/-- The comma of a flow collection. -/
def flowEntry (s : Scanner) : Except SyntaxError Scanner := do
  let s ← s.dropCandidate
  pure (({ s with keyAllowed := true }.push .flowEntry).advance 1)

/-- The dash of a block sequence. -/
def blockEntry (s : Scanner) : Except SyntaxError Scanner := do
  let s ←
    if s.inFlow then pure s
    else if !s.keyAllowed then throw .entryNotAllowed
    else s.openHere .blockSequenceStart
  let s ← s.dropCandidate
  pure (({ s with keyAllowed := true }.push .blockEntry).advance 1)

/-- The question mark before a key. -/
def explicitKey (s : Scanner) : Except SyntaxError Scanner := do
  let s ←
    if s.inFlow then pure s
    else if !s.keyAllowed then throw .keyNotAllowed
    else s.openHere .blockMappingStart
  let s ← s.dropCandidate
  pure (({ s with keyAllowed := !s.inFlow }.push .key).advance 1)

/-- A colon that stands alone or after a key with a question mark. -/
def complexValue (s : Scanner) : Except SyntaxError Scanner := do
  let s ←
    if s.inFlow then pure s
    else if !s.keyAllowed then throw .valueNotAllowed
    else s.openHere .blockMappingStart
  pure (({ s with keyAllowed := !s.inFlow }.push .value).advance 1)

/-- The colon after a key. The candidate that it reaches becomes a key. -/
def valueMark (s : Scanner) : Except SyntaxError Scanner := do
  let place := s.cursor.place
  match s.candidates with
  | some k :: rest =>
    if k.reaches place then
      let tokens := s.tokens.insertIdxIfInBounds k.token ⟨.key, k.place.line⟩
      let s := { s with tokens := tokens, candidates := none :: rest, keyAllowed := false }
      let s ← s.openBlock k.place.column k.token ⟨.blockMappingStart, k.place.line⟩
      pure ((s.push .value).advance 1)
    else if k.required then throw .missingColon
    else complexValue { s with candidates := none :: rest }
  | _ => complexValue s
/-- An anchor or an alias. -/
def anchorToken (s : Scanner) (kind : String → TokenKind) : Except SyntaxError Scanner := do
  let s ← s.saveCandidate
  let (name, cursor) ← readAnchorName (s.cursor.advance 1)
  pure { s.push (kind name) with cursor := cursor, keyAllowed := false }

/-- A tag. -/
def tagToken (s : Scanner) : Except SyntaxError Scanner := do
  let s ← s.saveCandidate
  let (handle, suffix, cursor) ← readTag s.cursor
  pure { s.push (.tag handle suffix) with cursor := cursor, keyAllowed := false }

/-- A block scalar. -/
def blockScalar (s : Scanner) (folded : Bool) : Except SyntaxError Scanner := do
  let s ← s.dropCandidate
  let (text, cursor) ← readBlock folded s.floor (s.cursor.advance 1)
  pure { s.push (.scalar text .block) with cursor := cursor, keyAllowed := true }

/-- A quoted scalar. -/
def quotedScalar (s : Scanner) (mark : Char) : Except SyntaxError Scanner := do
  let s ← s.saveCandidate
  let (text, cursor) ← readQuoted mark (s.cursor.advance 1)
  pure { s.push (.scalar text .quoted) with cursor := cursor, keyAllowed := false }

/-- A plain scalar. -/
def plainScalar (s : Scanner) : Except SyntaxError Scanner := do
  let s ← s.saveCandidate
  let scalar ← readPlain s.inFlow s.floor s.cursor
  pure { s.push (.scalar scalar.text .plain) with
    cursor := scalar.cursor, keyAllowed := scalar.newLine }

/-- Whether a plain scalar may start with `c` when `r` follows. -/
def startsPlain (inFlow : Bool) (c : Char) (r : List Char) : Bool :=
  if c == '-' then !(r.head?.any isBlank)
  else if c == '?' || c == ':' then !inFlow && !atGap r
  else !([',', '[', ']', '{', '}', '#', '&', '*', '!', '|', '>', '\'', '"', '%', '@', '`'].contains c
    || isBlank c || isBreak c)

/-- Reads the token that starts with `c`; the flag says whether a comment may follow on its
line. -/
def token (s : Scanner) (c : Char) (r : List Char) : Except SyntaxError (Scanner × Bool) := do
  let column := s.cursor.place.column
  if column == 0 && c == '%' then return (← s.directive, false)
  if s.cursor.atDocumentMark then
    return (← s.documentMark (if c == '-' then .documentStart else .documentEnd), false)
  let s ←
    if c == '[' then s.flowStart .flowSequenceStart
    else if c == '{' then s.flowStart .flowMappingStart
    else if c == ']' then s.flowEnd .flowSequenceEnd
    else if c == '}' then s.flowEnd .flowMappingEnd
    else if c == ',' then s.flowEntry
    else if c == '-' && atGap r then s.blockEntry
    else if c == '?' && (s.inFlow || atGap r) then s.explicitKey
    else if c == ':' && (s.inFlow || atGap r) then s.valueMark
    else if c == '*' then s.anchorToken .aliasOf
    else if c == '&' then s.anchorToken .anchor
    else if c == '!' then s.tagToken
    else if c == '|' && !s.inFlow then s.blockScalar false
    else if c == '>' && !s.inFlow then s.blockScalar true
    else if c == '\'' || c == '"' then s.quotedScalar c
    else if startsPlain s.inFlow c r then s.plainScalar
    else throw .unexpectedCharacter
  return (s, !(c == '-' && atGap r))

/-- Closes everything at the end of the text. -/
def finish (s : Scanner) : Except SyntaxError Scanner := do
  let s ← (s.closeBlocks 0).dropCandidate
  pure (s.push .streamEnd)

/-- Reads one token more; the flag says that it was the last. -/
def next (s : Scanner) : Except SyntaxError (Scanner × Bool) := do
  let s ← s.skipGap
  let s := s.closeBlocks (s.cursor.place.column + 1)
  match s.cursor.rest with
  | [] => return (← s.finish, true)
  | c :: r =>
    let (s, comment) ← s.token c r
    if comment then return (← s.skipLineComment, false) else return (s, false)

/-- The number of tokens from the first one that may still become a key; zero if there is none. -/
def undecided (s : Scanner) : Nat :=
  s.candidates.foldl (fun n k => match k with
    | some k => if k.reaches s.cursor.place then max n (s.tokens.size - k.token) else n
    | none => n) 0

end Scanner

/-- Why a scan broke off, and how many of the last tokens were undecided then. -/
structure Fault where
  cause : SyntaxError
  undecided : Nat := 0
deriving Repr, Inhabited

/-- The tokens of a text up to its end or to the point where the scan broke off. -/
structure TokenStream where
  tokens : List Token
  fault : Option Fault := none
deriving Inhabited

/-- Scans at most `fuel` tokens. -/
def scanFrom : (fuel : Nat) → Scanner → TokenStream
  | 0, s => ⟨s.tokens.toList, some ⟨.stuck, 0⟩⟩
  | fuel + 1, s =>
    match s.next with
    | .error cause => ⟨s.tokens.toList, some ⟨cause, s.undecided⟩⟩
    | .ok (s, true) => ⟨s.tokens.toList, none⟩
    | .ok (s, false) => scanFrom fuel s

/-- Whether the character may stand in a YAML text. -/
def isAllowed (c : Char) : Bool :=
  let n := c.toNat
  c == '\t' || c == '\n' || c == '\r' || (0x20 ≤ n && n ≤ 0x7E) || n == 0x85 ||
    (0xA0 ≤ n && n ≤ 0xFFFD) || 0x10000 ≤ n

/-- The tokens of a text. A byte order mark at its start is dropped. -/
def scan (text : List Char) : TokenStream :=
  let text := match text with
    | '\ufeff' :: r => r
    | text => text
  if text.all isAllowed then scanFrom (text.length + 1) { cursor := Cursor.start text }
  else ⟨[], some ⟨.controlCharacter, 0⟩⟩

end ProtoSchema.Yaml
