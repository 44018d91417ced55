import ProtoSchema.Text.Letter
import ProtoSchema.Text.Words

/-!
Spellings of identifiers: `GetUser`, `get_user` and `GET_USER` for one name. Underscores, hyphens,
dots and white space separate the words of a name; a change of case separates them as well.
-/
namespace ProtoSchema.Text

/-- Whether the character stands between the words of a name. -/
def isSeparator (c : Char) : Bool := c == '_' || c == '-' || c == '.' || isSpace c

/-- Drops separators and raises the first character after each of them; `start` says that the next
character begins a word. -/
def pascalFrom (start : Bool) : List Char → List Char
  | [] => []
  | c :: r =>
    if isSeparator c then pascalFrom true r
    else (if start then toUpper c else c) :: pascalFrom false r

/-- The name with every word raised and the separators dropped. -/
def pascal (s : List Char) : List Char := pascalFrom true s

/-- Whether a word begins at the upper-case character between `before` and `after`. -/
def beginsWord (before : Option Char) (after : List Char) : Bool :=
  before.any (fun c => isLower c || isDigit c) || after.head?.any isLower

/-- Adds an underscore to the text built so far, last character first, unless it is empty or ends
in one. -/
def withUnderscore (built : List Char) : List Char :=
  match built with
  | [] => []
  | c :: _ => if c == '_' then built else '_' :: built

/-- Reads a name after the character `before`; `built` is the result so far, last character
first. -/
def snakeFrom (before : Option Char) (built : List Char) : List Char → List Char
  | [] => built
  | c :: r =>
    if isSeparator c then snakeFrom (some c) (withUnderscore built) r
    else if isUpper c then
      let built := if beginsWord before r then withUnderscore built else built
      snakeFrom (some c) (toLower c :: built) r
    else snakeFrom (some c) (c :: built) r

/-- The name in lower case with an underscore between its words. -/
def snake (s : List Char) : List Char :=
  match snakeFrom none [] s with
  | [] => []
  | c :: built => (if c == '_' then built else c :: built).reverse

/-- The name in upper case with an underscore between its words. -/
def upperSnake (s : List Char) : List Char := (snake s).map toUpper

/-- `pascal` on strings. -/
def toPascal (s : String) : String := String.ofList (pascal s.toList)

/-- `snake` on strings. -/
def toSnake (s : String) : String := String.ofList (snake s.toList)

/-- `upperSnake` on strings. -/
def toUpperSnake (s : String) : String := String.ofList (upperSnake s.toList)

end ProtoSchema.Text
