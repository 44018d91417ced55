import ProtoSchema.Text.CharSet

/-!
White space and the pieces of a text that it separates: trimming, words, and lines.
-/
namespace ProtoSchema.Text

/-- The characters with the Unicode property White_Space. -/
def whiteSpace : CharSet := [
  (0x9, 0xd, 1), (0x20, 0x20, 1), (0x85, 0x85, 1), (0xa0, 0xa0, 1), (0x1680, 0x1680, 1),
  (0x2000, 0x200a, 1), (0x2028, 0x2029, 1), (0x202f, 0x202f, 1), (0x205f, 0x205f, 1),
  (0x3000, 0x3000, 1)]

/-- Whether the character is white space. -/
def isSpace (c : Char) : Bool := whiteSpace.has c

theorem length_dropWhile_le {α : Type} (p : α → Bool) (l : List α) :
    (l.dropWhile p).length ≤ l.length := by
  induction l with
  | nil => simp
  | cons a l ih =>
    simp only [List.dropWhile_cons]
    split
    · exact Nat.le_succ_of_le ih
    · exact Nat.le_refl _

/-- The text without white space at its start. -/
def trimStart (s : List Char) : List Char := s.dropWhile isSpace

/-- The text without the characters of `p` at its end. -/
def trimEndWhile (p : Char → Bool) (s : List Char) : List Char :=
  (s.reverse.dropWhile p).reverse

/-- The text without white space at its start and at its end. -/
def trim (s : List Char) : List Char := trimEndWhile isSpace (trimStart s)

/-- The pieces between the characters of `p`, one more than there are such characters. -/
def cut (p : Char → Bool) : List Char → List (List Char)
  | [] => [[]]
  | c :: r =>
    if p c then [] :: cut p r
    else
      match cut p r with
      | [] => [[c]]
      | piece :: pieces => (c :: piece) :: pieces

/-- The pieces between line feeds. -/
def lines (s : List Char) : List (List Char) := cut (· == '\n') s

/-- The maximal runs of characters that are not white space. -/
def words (s : List Char) : List (List Char) := (cut isSpace s).filter (· ≠ [])

/-- The pieces joined with `sep` between them. -/
def join (sep : List Char) : List (List Char) → List Char
  | [] => []
  | [piece] => piece
  | piece :: pieces => piece ++ sep ++ join sep pieces

end ProtoSchema.Text
