/-!
A YAML text while it is read: the characters that are left and the place of the first of them.
-/
namespace ProtoSchema.Yaml

/-- Whether the character ends a line. -/
def isBreak (c : Char) : Bool :=
  c == '\n' || c == '\r' || c == '\u0085' || c == '\u2028' || c == '\u2029'

/-- The character that stands for the end of a line: a line feed for all kinds but the separators
U+2028 and U+2029, which stand for themselves. -/
def breakText (c : Char) : Char := if c == '\u2028' || c == '\u2029' then c else '\n'

/-- Whether the character is a space or a tab. -/
def isBlank (c : Char) : Bool := c == ' ' || c == '\t'

/-- Whether the character may stand in names of anchors, tag handles and directives. -/
def isWordChar (c : Char) : Bool :=
  ('0' ≤ c && c ≤ '9') || ('A' ≤ c && c ≤ 'Z') || ('a' ≤ c && c ≤ 'z') || c == '_' || c == '-'

/-- Whether the text is over or starts with a blank or the end of a line. -/
def atGap : List Char → Bool
  | [] => true
  | c :: _ => isBlank c || isBreak c

/-- Whether the text is over or starts with the end of a line. -/
def atLineEnd : List Char → Bool
  | [] => true
  | c :: _ => isBreak c

/-- A place in a text: the number of characters from there on, and the line and the column, counted
from zero. -/
structure Place where
  left : Nat
  line : Nat
  column : Nat
deriving Repr, DecidableEq, Inhabited

/-- The place after `n` characters of the same line. -/
def Place.right (p : Place) (n : Nat) : Place :=
  { p with left := p.left - n, column := p.column + n }

/-- The start of the next line, past `n` characters. -/
def Place.down (p : Place) (n : Nat) : Place :=
  { left := p.left - n, line := p.line + 1, column := 0 }

/-- The rest of a text and the place where it starts. -/
structure Cursor where
  rest : List Char
  place : Place
deriving Repr, Inhabited

namespace Cursor

/-- A cursor at the start of a text. -/
def start (s : List Char) : Cursor := ⟨s, ⟨s.length, 0, 0⟩⟩

/-- Moves over `n` characters, none of which ends a line. -/
def advance (c : Cursor) (n : Nat) : Cursor := ⟨c.rest.drop n, c.place.right n⟩

/-- Reads the characters up to the first one outside `p`, which must accept no end of line. -/
def takeWhile (c : Cursor) (p : Char → Bool) : List Char × Cursor :=
  let taken := c.rest.takeWhile p
  (taken, c.advance taken.length)

/-- Moves over the characters of `p`, which must accept no end of line. -/
def dropWhile (c : Cursor) (p : Char → Bool) : Cursor := (c.takeWhile p).2

/-- Reads the end of a line, of which a carriage return and a line feed together are one. -/
def takeBreak (c : Cursor) : List Char × Cursor :=
  match c.rest with
  | '\r' :: '\n' :: r => (['\n'], ⟨r, c.place.down 2⟩)
  | b :: r =>
    if isBreak b then ([breakText b], ⟨r, c.place.down 1⟩) else ([], c)
  | [] => ([], c)

/-- Whether the character `b` stands next. -/
def looksAt (c : Cursor) (b : Char) : Bool := c.rest.head? == some b

/-- Whether a line starts here with `---` or `...` and a gap after it. -/
def atDocumentMark (c : Cursor) : Bool :=
  c.place.column == 0 &&
    match c.rest with
    | '-' :: '-' :: '-' :: r => atGap r
    | '.' :: '.' :: '.' :: r => atGap r
    | _ => false

end Cursor

end ProtoSchema.Yaml
