import ProtoSchema.Text.Words

/-!
Line comments: a text is filled into lines of at most eighty characters, each paragraph by itself.
-/
namespace ProtoSchema.Proto

open Text

/-- Lines hold at most this many characters, not counting what stands before the text. -/
def wrapWidth : Nat := 80

/-- Fills words into lines, each as full as possible; a word that is too long has a line of its
own. `line` is the line that is being filled, and `length` counts its characters. -/
def fill (line : List Char) (length : Nat) : List (List Char) → List (List Char)
  | [] => [line]
  | w :: ws =>
    if length + 1 + w.length > wrapWidth then line :: fill w w.length ws
    else fill (line ++ ' ' :: w) (length + 1 + w.length) ws

/-- The comment lines of a paragraph. One without words gives a line without text. -/
def paragraphLines (lead : List Char) (paragraph : List Char) : List (List Char) :=
  match words paragraph with
  | [] => [trimEndWhile (· == ' ') lead]
  | w :: ws => (fill w w.length ws).map (lead ++ ·)

/-- The lines of a comment; `lead` stands before each of them. A blank text gives none. -/
def commentLines (lead text : List Char) : List (List Char) :=
  match trim text with
  | [] => []
  | text => (lines text).flatMap (paragraphLines lead)

/-- A comment as text. -/
def comment (lead text : String) : String :=
  String.join ((commentLines lead.toList text.toList).map fun l => String.ofList l ++ "\n")

end ProtoSchema.Proto
