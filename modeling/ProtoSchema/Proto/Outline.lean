import ProtoSchema.Proto.Grammar
import ProtoSchema.Proto.Token.Scan

/-!
Outlines of proto files: what a file declares at its top level, or where it stops being a proto
file.
-/
namespace ProtoSchema.Proto

/-- What a file declares: its package, which is the last one it names, and the names of its
services, messages and enums in order. -/
structure Outline where
  package : String := ""
  services : List String := []
  messages : List String := []
  enums : List String := []
deriving Repr, DecidableEq, Inhabited

/-- An element of a file, as far as an outline shows it. -/
inductive Declaration where
  | package (name : String)
  | service (name : String)
  | message (name : String)
  | enum (name : String)
  | other
deriving Repr, DecidableEq, Inhabited

/-- Adds a declaration. -/
def Outline.add (o : Outline) : Declaration → Outline
  | .package name => { o with package := name }
  | .service name => { o with services := o.services ++ [name] }
  | .message name => { o with messages := o.messages ++ [name] }
  | .enum name => { o with enums := o.enums ++ [name] }
  | .other => o

namespace Rule

/-- An import after its first word. -/
def importTail : Rule Unit := do
  if ← optional (.word "weak") then pure ()
  else
    let _ ← optional (.word "public")
  literal
  symbol ';'

/-- An element of a file. -/
def declaration : Rule Declaration := do
  match ← peek with
  | some (.symbol ';') =>
    skip
    return .other
  | some (.word "import") =>
    skip
    importTail
    return .other
  | some (.word "option") =>
    skip
    optionDeclaration
    return .other
  | some (.word "extend") =>
    skip
    extension messageBody
    return .other
  | some (.word "package") =>
    skip
    let p ← path
    symbol ';'
    return .package (String.intercalate "." p)
  | some (.word "message") =>
    skip
    return .message (← message)
  | some (.word "enum") =>
    skip
    return .enum (← enum)
  | some (.word "service") =>
    skip
    return .service (← service)
  | _ => fail

/-- The line that names the language's version, if there is one. -/
def version : Rule Unit := do
  match ← peek with
  | some (.word w) =>
    if w == "syntax" || w == "edition" then
      skip
      symbol '='
      literal
      symbol ';'
  | _ => pure ()

/-- A file. -/
def file : Rule Outline := do
  version
  let declarations ← manyUntil (·.isEmpty) declaration
  return declarations.foldl Outline.add {}

end Rule

/-! ## Positions -/

/-- A line and a column of a text; both start at one. -/
structure Position where
  line : Nat := 1
  column : Nat := 1
deriving Repr, DecidableEq, Inhabited

namespace Position

/-- The position after a character: columns count octets, and a tab goes on to the next column
after a multiple of eight. -/
def next (p : Position) (c : Char) : Position :=
  if c = '\n' then { line := p.line + 1, column := 1 }
  else if c = '\t' then { p with column := (p.column - 1) / 8 * 8 + 9 }
  else { p with column := p.column + c.utf8Size }

/-- The position after a text. -/
def after (s : List Char) : Position := s.foldl next {}

end Position

/-- Where a text stops being a proto file. -/
structure SyntaxFault where
  position : Position
deriving Repr, DecidableEq, Inhabited

/-- The wording of a fault in a file. -/
def SyntaxFault.message (filename : String) (f : SyntaxFault) : String :=
  "proto syntax error: " ++ filename ++ ":" ++ toString f.position.line ++ ":" ++
    toString f.position.column

/-- A text without a byte-order mark at its start. -/
def dropMark : List Char → List Char
  | '\ufeff' :: r => r
  | s => s

/-- The number of characters before the first of the last `left` tokens, or of the whole text. -/
def offsetOf (tokens : List (Token × Nat)) (left size : Nat) : Nat :=
  match tokens.drop (tokens.length - left) with
  | [] => size
  | (_, offset) :: _ => offset

/-- The outline of a proto text. -/
def outline (text : String) : Except SyntaxFault Outline :=
  let s := dropMark text.toList
  let tokens := Token.scan s
  match Rule.file (tokens.map (·.1)) with
  | .ok (o, _) => .ok o
  | .error left => .error { position := Position.after (s.take (offsetOf tokens left s.length)) }

end ProtoSchema.Proto
