import ProtoSchema.Yaml.Token

/-!
The text of scalars in their three styles. Plain and quoted scalars fold line ends: a single one
becomes a space, of several the first is dropped. Block scalars keep or fold them by their header.
-/
namespace ProtoSchema.Yaml

/-! ## Runs of blanks and line ends -/

/-- A run of blanks and line ends inside a scalar; its parts are stored last character first. -/
structure Gap where
  blanks : List Char := []
  first : List Char := []
  more : List Char := []
  broken : Bool := false
deriving Inhabited

/-- The characters that the run contributes to the scalar, last character first. -/
def Gap.folded (g : Gap) : List Char :=
  if g.broken then
    if g.first == ['\n'] then (if g.more.isEmpty then [' '] else g.more)
    else g.more ++ g.first
  else g.blanks

/-- Reads a run of blanks and line ends. Blanks after a line end are dropped, but a tab before the
column `floor` of such a line is refused. -/
def readGap (floor : Nat) : List Char → Place → Gap → Except SyntaxError (Gap × Cursor)
  | [], p, g => .ok (g, ⟨[], p⟩)
  | '\r' :: '\n' :: r, p, g =>
    if g.broken then readGap floor r (p.down 2) { g with more := '\n' :: g.more }
    else readGap floor r (p.down 2) { g with blanks := [], first := ['\n'], broken := true }
  | c :: r, p, g =>
    if isBlank c then
      if g.broken then
        if c == '\t' && p.column < floor then .error .tabInIndentation
        else readGap floor r (p.right 1) g
      else readGap floor r (p.right 1) { g with blanks := c :: g.blanks }
    else if isBreak c then
      if g.broken then readGap floor r (p.down 1) { g with more := breakText c :: g.more }
      else readGap floor r (p.down 1) { g with blanks := [], first := [breakText c], broken := true }
    else .ok (g, ⟨c :: r, p⟩)

/-! ## Plain scalars -/

/-- Whether a plain scalar stops before `c` when `r` follows. -/
def endsPlain (inFlow : Bool) (c : Char) (r : List Char) : Bool :=
  (c == ':' && atGap r) || (inFlow && [',', '?', '[', ']', '{', '}'].contains c)

/-- The characters of a plain scalar up to a gap or its end. -/
def plainChunk (inFlow : Bool) : List Char → List Char
  | [] => []
  | c :: r =>
    if isBlank c || isBreak c || endsPlain inFlow c r then [] else c :: plainChunk inFlow r

/-- A plain scalar while it is read: its text, last character first, and the gap after it. -/
structure PlainState where
  text : List Char := []
  gap : Gap := {}

/-- What was read as a plain scalar; `newLine` says that a line end followed it. -/
structure PlainScalar where
  text : String
  newLine : Bool
  cursor : Cursor

/-- Closes a plain scalar. -/
def PlainState.finish (s : PlainState) (c : Cursor) : PlainScalar :=
  ⟨String.ofList s.text.reverse, s.gap.broken, c⟩

/-- Reads one chunk of a plain scalar and the gap after it. -/
def plainStep (inFlow : Bool) (floor : Nat) (s : PlainState) (c : Cursor) :
    Except SyntaxError (Progress PlainState PlainScalar) :=
  if c.atDocumentMark || c.looksAt '#' then .ok (.done (s.finish c))
  else
    let chunk := plainChunk inFlow c.rest
    let s := if chunk.isEmpty then s
      else { text := chunk.reverse ++ s.gap.folded ++ s.text, gap := {} }
    let c := c.advance chunk.length
    if c.rest.isEmpty || !atGap c.rest then .ok (.done (s.finish c))
    else do
      let (gap, c) ← readGap floor c.rest c.place {}
      let s := { s with gap := gap }
      if !inFlow && c.place.column < floor then .ok (.done (s.finish c))
      else .ok (.more s c)

/-- Reads a plain scalar. -/
def readPlain (inFlow : Bool) (floor : Nat) (c : Cursor) : Except SyntaxError PlainScalar :=
  readAll (plainStep inFlow floor) {} c

/-! ## Quoted scalars -/

/-- The value of a hexadecimal digit. -/
def hexValue? (c : Char) : Option Nat :=
  if '0' ≤ c && c ≤ '9' then some (c.toNat - 48)
  else if 'a' ≤ c && c ≤ 'f' then some (c.toNat - 87)
  else if 'A' ≤ c && c ≤ 'F' then some (c.toNat - 55)
  else none

/-- The value of a run of hexadecimal digits. -/
def hexNumber? (cs : List Char) : Option Nat :=
  cs.foldlM (fun n c => (hexValue? c).map (16 * n + ·)) 0

/-- The character that an escape of one letter stands for. -/
def simpleEscape? (c : Char) : Option Char :=
  match c with
  | '0' => some (Char.ofNat 0)
  | 'a' => some (Char.ofNat 7)
  | 'b' => some (Char.ofNat 8)
  | 't' => some '\t'
  | '\t' => some '\t'
  | 'n' => some '\n'
  | 'v' => some (Char.ofNat 11)
  | 'f' => some (Char.ofNat 12)
  | 'r' => some '\r'
  | 'e' => some (Char.ofNat 27)
  | ' ' => some ' '
  | '"' => some '"'
  | '\'' => some '\''
  | '\\' => some '\\'
  | 'N' => some '\u0085'
  | '_' => some '\u00a0'
  | 'L' => some '\u2028'
  | 'P' => some '\u2029'
  | _ => none

/-- The number of digits of a numeric escape. -/
def escapeWidth? (c : Char) : Option Nat :=
  match c with
  | 'x' => some 2
  | 'u' => some 4
  | 'U' => some 8
  | _ => none

/-- Reads what follows a backslash, the end of a line apart. -/
def readEscape (c : Cursor) : Except SyntaxError (Char × Cursor) :=
  match c.rest with
  | [] => .error .badEscape
  | e :: r =>
    match simpleEscape? e, escapeWidth? e with
    | some x, _ => .ok (x, c.advance 1)
    | none, some width =>
      let ds := r.take width
      if ds.length < width then .error .badEscape
      else
        match hexNumber? ds with
        | some n =>
          if (0xD800 ≤ n && n ≤ 0xDFFF) || n > 0x10FFFF then .error .badEscape
          else .ok (Char.ofNat n, c.advance (1 + width))
        | none => .error .badEscape
    | none, none => .error .badEscape

/-- Reads one piece of a quoted scalar; `text` is what was read so far, last character first. -/
def quotedStep (mark : Char) (text : List Char) (c : Cursor) :
    Except SyntaxError (Progress (List Char) (String × Cursor)) :=
  if c.atDocumentMark then .error .unterminatedQuote
  else
    match c.rest with
    | [] => .error .unterminatedQuote
    | q :: r =>
      if isBlank q || isBreak q then do
        let (gap, c) ← readGap 0 c.rest c.place {}
        .ok (.more (gap.folded ++ text) c)
      else if q == '\'' && mark == '\'' && r.head? == some '\'' then
        .ok (.more ('\'' :: text) (c.advance 2))
      else if q == mark then .ok (.done (String.ofList text.reverse, c.advance 1))
      else if q == '\\' && mark == '"' then
        if !r.isEmpty && atLineEnd r then do
          let c := ((c.advance 1).takeBreak).2
          let (gap, c) ← readGap 0 c.rest c.place { broken := true }
          .ok (.more (gap.folded ++ text) c)
        else do
          let (x, c) ← readEscape (c.advance 1)
          .ok (.more (x :: text) c)
      else .ok (.more (q :: text) (c.advance 1))

/-- Reads a quoted scalar after its opening mark. -/
def readQuoted (mark : Char) (c : Cursor) : Except SyntaxError (String × Cursor) :=
  readAll (quotedStep mark) [] c

/-! ## Block scalars -/

/-- What happens to the line ends at the end of a block scalar. -/
inductive Chomping where
  | strip
  | clip
  | keep
deriving Repr, DecidableEq, Inhabited

/-- The chomping mark, if one stands here. -/
def readChomping (c : Cursor) : Option (Chomping × Cursor) :=
  if c.looksAt '+' then some (.keep, c.advance 1)
  else if c.looksAt '-' then some (.strip, c.advance 1)
  else none

/-- The indentation mark, a digit other than zero, if one stands here; zero if there is none. -/
def readIncrement (c : Cursor) : Except SyntaxError (Nat × Cursor) :=
  match c.rest with
  | d :: _ =>
    if d == '0' then .error .badBlockHeader
    else if '1' ≤ d && d ≤ '9' then .ok (d.toNat - 48, c.advance 1)
    else .ok (0, c)
  | [] => .ok (0, c)

/-- Reads the marks after `|` or `>`, in either order, and the rest of that line. -/
def readBlockHeader (c : Cursor) : Except SyntaxError (Chomping × Nat × Cursor) := do
  let (chomping, increment, c) ← match readChomping c with
    | some (chomping, c) => do
      let (increment, c) ← readIncrement c
      pure (chomping, increment, c)
    | none => do
      let (increment, c) ← readIncrement c
      match readChomping c with
      | some (chomping, c) => pure (chomping, increment, c)
      | none => pure (Chomping.clip, increment, c)
  let c := c.dropWhile isBlank
  let c := if c.looksAt '#' then c.dropWhile (fun x => !isBreak x) else c
  if atLineEnd c.rest then pure (chomping, increment, (c.takeBreak).2)
  else .error .badBlockHeader

/-- Reads the indentation of a line and the empty lines before it. `indent` is the indentation of
the scalar, zero while it is unknown. The result has the widest indentation seen and the line
ends, last first. -/
def readIndentation (indent : Nat) :
    List Char → Place → (widest : Nat) → (breaks : List Char) →
      Except SyntaxError (Nat × List Char × Cursor)
  | [], p, widest, breaks => .ok (widest, breaks, ⟨[], p⟩)
  | '\r' :: '\n' :: r, p, widest, breaks =>
    readIndentation indent r (p.down 2) widest ('\n' :: breaks)
  | c :: r, p, widest, breaks =>
    if isBreak c then
      readIndentation indent r (p.down 1) widest (breakText c :: breaks)
    else if isBlank c && (indent = 0 || p.column < indent) then
      if c == '\t' then .error .tabInIndentation
      else readIndentation indent r (p.right 1) (max widest (p.column + 1)) breaks
    else .ok (widest, breaks, ⟨c :: r, p⟩)

/-- A block scalar while it is read; texts are stored last character first. -/
structure BlockState where
  text : List Char := []
  lineEnd : List Char := []
  breaks : List Char
  indented : Bool := false

/-- Reads one line of a block scalar and the empty lines after it. -/
def blockStep (folded : Bool) (indent : Nat) (s : BlockState) (c : Cursor) :
    Except SyntaxError (Progress BlockState (BlockState × Cursor)) :=
  if c.place.column ≠ indent || c.rest.isEmpty then .ok (.done (s, c))
  else do
    let indented := (c.rest.head?.map isBlank).getD false
    let joint :=
      if folded && !s.indented && !indented && s.lineEnd == ['\n'] then
        if s.breaks.isEmpty then [' '] else []
      else s.lineEnd
    let (line, c) := c.takeWhile (fun x => !isBreak x)
    let text := line.reverse ++ s.breaks ++ joint ++ s.text
    let (lineEnd, c) := c.takeBreak
    let (_, breaks, c) ← readIndentation indent c.rest c.place 0 []
    .ok (.more { text := text, lineEnd := lineEnd, breaks := breaks, indented := indented } c)

/-- Reads a block scalar after its `|` or `>`; `floor` is the least column of content here. -/
def readBlock (folded : Bool) (floor : Nat) (c : Cursor) :
    Except SyntaxError (String × Cursor) := do
  let (chomping, increment, c) ← readBlockHeader c
  let given := if increment = 0 then 0 else (floor - 1) + increment
  let (widest, breaks, c) ← readIndentation given c.rest c.place 0 []
  let indent := if given = 0 then max (max widest floor) 1 else given
  let (s, c) ← readAll (blockStep folded indent) { breaks := breaks } c
  let text := match chomping with
    | .strip => s.text
    | .clip => s.lineEnd ++ s.text
    | .keep => s.breaks ++ s.lineEnd ++ s.text
  pure (String.ofList text.reverse, c)

end ProtoSchema.Yaml
