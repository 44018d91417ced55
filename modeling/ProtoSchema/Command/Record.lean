import ProtoSchema.Text.Words

/-!
Records of names: fields with commas between them on one line. A field may stand in quotes; it can
then hold commas, line feeds and, written twice, quotes.
-/
namespace ProtoSchema.Command

/-- A line and a column, which counts octets. -/
structure RecordPosition where
  line : Nat := 1
  column : Nat := 1
deriving Repr, DecidableEq, Inhabited

/-- Why a text is no record; `start` is the line on which the record starts. -/
inductive RecordError where
  | nothing
  | bareQuote (start : Nat) (position : RecordPosition)
  | quote (start : Nat) (position : RecordPosition)
deriving Repr, DecidableEq, Inhabited

/-- The wording of a position. -/
def RecordPosition.message (start : Nat) (p : RecordPosition) : String :=
  (if start = p.line then "" else "record on line " ++ toString start ++ "; ") ++
    "parse error on line " ++ toString p.line ++ ", column " ++ toString p.column

/-- The wording of an error. -/
def RecordError.message : RecordError → String
  | nothing => "EOF"
  | bareQuote start p => p.message start ++ ": bare \" in non-quoted-field"
  | quote start p => p.message start ++ ": extraneous or missing \" in quoted-field"

namespace Record

/-- The text with plain line feeds: a carriage return before a line feed or at the end goes. -/
def plainLines : List Char → List Char
  | [] => []
  | ['\r'] => []
  | '\r' :: '\n' :: r => '\n' :: plainLines r
  | c :: r => c :: plainLines r

/-- Where the reader is in a field. -/
inductive State where
  | start
  | plain
  | quoted
  | afterQuote
deriving Repr, DecidableEq, Inhabited

/-- Reads a record from a field on. `p` is the position of the next character, and `field` is the
field so far, its last character first. -/
def readFrom (first : Nat) (p : RecordPosition) (state : State) (field : List Char) :
    List Char → Except RecordError (List String)
  | [] =>
    match state with
    | .quoted => .error (.quote first p)
    | _ => .ok [String.ofList field.reverse]
  | c :: r =>
    let next : RecordPosition := { p with column := p.column + c.utf8Size }
    match state with
    | .quoted =>
      if c == '"' then readFrom first next .afterQuote field r
      else
        let next := if c == '\n' && !r.isEmpty then { line := p.line + 1, column := 1 } else next
        readFrom first next .quoted (c :: field) r
    | .afterQuote =>
      if c == '"' then readFrom first next .quoted (c :: field) r
      else if c == ',' then do
        let fields ← readFrom first next .start [] r
        .ok (String.ofList field.reverse :: fields)
      else if c == '\n' then .ok [String.ofList field.reverse]
      else .error (.quote first { p with column := p.column - 1 })
    | state =>
      if c == '"' then
        if state = .start then readFrom first next .quoted [] r
        else .error (.bareQuote first p)
      else if c == ',' then do
        let fields ← readFrom first next .start [] r
        .ok (String.ofList field.reverse :: fields)
      else if c == '\n' then .ok [String.ofList field.reverse]
      else readFrom first next .plain (c :: field) r

/-- Reads the first line that is not empty, from the line `line` on. -/
def readLine (line : Nat) : List Char → Except RecordError (List String)
  | [] => .error .nothing
  | '\n' :: r => readLine (line + 1) r
  | s => readFrom line { line := line } .start [] s

/-- Reads the first record of a text. No text gives no fields. -/
def read (text : String) : Except RecordError (List String) :=
  if text.isEmpty then .ok [] else readLine 1 (plainLines text.toList)

/-! ## Writing -/

/-- Whether a character cannot stand in a field without quotes. -/
def isMark (c : Char) : Bool := c == '\n' || c == '\r' || c == '"' || c == ','

/-- Whether a field is written in quotes. -/
def needsQuotes (field : List Char) : Bool :=
  field = ['\\', '.'] || field.any isMark || field.head?.any Text.isSpace

/-- What stands between the quotes of a field. -/
def doubled (field : List Char) : List Char :=
  field.flatMap fun c => if c == '"' then ['"', '"'] else [c]

/-- A field as it stands in a record. -/
def writeField (field : List Char) : List Char :=
  if needsQuotes field then '"' :: doubled field ++ ['"'] else field

/-- A record of names. A single empty name gives no text, just as no names do. -/
def write (names : List String) : String :=
  String.ofList (Text.join [','] (names.map fun n => writeField n.toList))

end Record

end ProtoSchema.Command
