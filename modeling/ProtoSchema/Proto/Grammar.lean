import ProtoSchema.Proto.Token

/-!
The grammar of proto files, read from tokens. A rule takes tokens off the front of a list; one that
cannot go on fails with the number of tokens that are left, so that the first of them is the
culprit. References are not resolved, and names and numbers are not checked any further.
-/
namespace ProtoSchema.Proto

/-- A rule of the grammar. -/
abbrev Rule (α : Type) := StateT (List Token) (Except Nat) α

namespace Rule

variable {α : Type}

/-! ## Tokens -/

/-- No rule goes on from here. -/
def fail : Rule α := fun tokens => .error tokens.length

/-- The next token, if there is one. -/
def peek : Rule (Option Token) := fun tokens => .ok (tokens.head?, tokens)

/-- Takes the next token. -/
def skip : Rule Unit := fun tokens => .ok ((), tokens.tail)

/-- A given token. -/
def expect (t : Token) : Rule Unit := fun tokens =>
  match tokens with
  | [] => .error 0
  | u :: rest => if u = t then .ok ((), rest) else .error tokens.length

/-- A given token if it is the next; says whether it was. -/
def optional (t : Token) : Rule Bool := fun tokens =>
  match tokens with
  | [] => .ok (false, [])
  | u :: rest => if u = t then .ok (true, rest) else .ok (false, tokens)

/-- A given symbol. -/
def symbol (c : Char) : Rule Unit := expect (.symbol c)

/-- A given word. -/
def keyword (w : String) : Rule Unit := expect (.word w)

/-- Any word: every keyword can be a name. -/
def name : Rule String := fun tokens =>
  match tokens with
  | .word w :: rest => .ok (w, rest)
  | tokens => .error tokens.length

/-- An integer without a sign. -/
def integer : Rule Unit := fun tokens =>
  match tokens with
  | .integer _ :: rest => .ok ((), rest)
  | tokens => .error tokens.length

/-! ## Repetition -/

/-- What `element` reads again and again until `done` holds, at most `fuel` times. -/
def manyUntilFrom (done : List Token → Bool) (element : Rule α) : (fuel : Nat) → Rule (List α)
  | 0 => fail
  | fuel + 1 => fun tokens =>
    if done tokens then .ok ([], tokens)
    else do
      let (a, rest) ← element tokens
      let (as, rest) ← manyUntilFrom done element fuel rest
      .ok (a :: as, rest)

/-- What `element` reads again and again until `done` holds. -/
def manyUntil (done : List Token → Bool) (element : Rule α) : Rule (List α) := fun tokens =>
  manyUntilFrom done element (tokens.length + 1) tokens

/-- Elements up to a closing brace, which is taken. -/
def upToBrace (element : Rule Unit) : Rule Unit := do
  let _ ← manyUntil (fun tokens => tokens.head? = some (.symbol '\x7d')) element
  symbol '\x7d'

/-- Elements in braces. -/
def block (element : Rule Unit) : Rule Unit := do
  symbol '\x7b'
  upToBrace element

/-- More elements, each after a given symbol. -/
def more (separator : Char) (element : Rule α) : Rule (List α) :=
  manyUntil (fun tokens => tokens.head? ≠ some (.symbol separator)) do
    skip
    element

/-- One or more elements with a symbol between them. -/
def separated (separator : Char) (element : Rule α) : Rule (List α) := do
  let a ← element
  let as ← more separator element
  return a :: as

/-- One or more string literals, which count as one. -/
def literal : Rule Unit := do
  expect .literal
  let _ ← manyUntil (fun tokens => tokens.head? ≠ some .literal) skip

/-! ## Names and types -/

/-- Names with points between them. -/
def path : Rule (List String) := separated '.' name

/-- The name of a type, which may start with a point. -/
def typeName : Rule Unit := do
  let _ ← optional (.symbol '.')
  let _ ← path

/-- The name of a type that does not start with any of some words. -/
def typeNameExcept (words : List String) : Rule Unit := do
  match ← peek with
  | some (.word w) => if words.contains w then fail else typeName
  | _ => typeName

/-! ## Options -/

/-- A part of the name of an option: a name, or the name of an extension in brackets. -/
def optionPart : Rule Unit := do
  if ← optional (.symbol '(') then
    typeName
    symbol ')'
  else
    let _ ← name

/-- The name of an option. -/
def optionName : Rule Unit := do
  let _ ← separated '.' optionPart

/-- What may follow a minus sign. -/
def negated : Rule Unit := do
  match ← peek with
  | some (.integer _) => skip
  | some .fraction => skip
  | some (.word w) => if w == "inf" || w == "nan" then skip else fail
  | _ => fail

/-- A value that is no message and no list. -/
def scalar : Rule Unit := do
  match ← peek with
  | some .literal => literal
  | some (.integer _) => skip
  | some .fraction => skip
  | some (.word _) => skip
  | some (.symbol '-') =>
    skip
    negated
  | _ => fail

/-- The name of a field in a message value: a name, or in brackets an extension or the type of a
message with the place where it is known. -/
def valueName : Rule Unit := do
  if ← optional (.symbol '[') then
    let _ ← path
    if ← optional (.symbol '/') then
      let _ ← path
    symbol ']'
  else
    let _ ← name

/-- A list in brackets, which may be empty. -/
def listOf (element : Rule Unit) : Rule Unit := do
  symbol '['
  if ← optional (.symbol ']') then pure ()
  else
    let _ ← separated ',' element
    symbol ']'

/-- A message value; `field` reads its fields. -/
def messageValue (field : Rule Unit) : Rule Unit := do
  match ← peek with
  | some (.symbol c) =>
    if c = '\x7b' || c = '<' then
      let close := if c = '<' then '>' else '\x7d'
      skip
      let _ ← manyUntil (fun tokens => tokens.head? = some (.symbol close)) field
      symbol close
    else fail
  | _ => fail

/-- A message value or a scalar. -/
def single (field : Rule Unit) : Rule Unit := do
  match ← peek with
  | some (.symbol '\x7b') => messageValue field
  | some (.symbol '<') => messageValue field
  | _ => scalar

/-- A field of a message value, with messages nested at most `depth` times. A message or a list of
messages needs no colon before it, and a comma or a semicolon may follow a field. -/
def valueField : (depth : Nat) → Rule Unit
  | 0 => fail
  | depth + 1 => do
    valueName
    if ← optional (.symbol ':') then
      match ← peek with
      | some (.symbol '[') => listOf (single (valueField depth))
      | _ => single (valueField depth)
    else
      match ← peek with
      | some (.symbol '[') => listOf (messageValue (valueField depth))
      | _ => messageValue (valueField depth)
    if ← optional (.symbol ',') then pure ()
    else
      let _ ← optional (.symbol ';')

/-- The value of an option: a scalar, or a message in braces. -/
def optionValue : Rule Unit := fun tokens =>
  match tokens with
  | .symbol '\x7b' :: _ => messageValue (valueField tokens.length) tokens
  | tokens => scalar tokens

/-- An option with its value. -/
def setting : Rule Unit := do
  optionName
  symbol '='
  optionValue

/-- An option declaration after its first word. -/
def optionDeclaration : Rule Unit := do
  setting
  symbol ';'

/-- Options in brackets, at least one, if there are brackets. -/
def bracketed : Rule Unit := do
  if ← optional (.symbol '[') then
    let _ ← separated ',' setting
    symbol ']'

/-! ## Fields -/

/-- What follows a field's name: perhaps a number and options. -/
def fieldTail : Rule Unit := do
  if ← optional (.symbol '=') then integer
  bracketed

/-- A field from its type on. -/
def field (type : Rule Unit) : Rule Unit := do
  type
  let _ ← name
  fieldTail
  symbol ';'

/-- A group after its first word. -/
def group (body : Rule Unit) : Rule Unit := do
  let _ ← name
  fieldTail
  block body

/-- The words that say how often a field occurs. -/
def labels : List String := ["optional", "required", "repeated"]

/-- A field or a group after its label. -/
def labelled (body : Rule Unit) : Rule Unit := do
  if ← optional (.word "group") then group body
  else field typeName

/-- The types that keys of maps can have. -/
def keyTypes : List String := [
  "int32", "int64", "uint32", "uint64", "sint32", "sint64", "fixed32", "fixed64", "sfixed32",
  "sfixed64", "bool", "string"]

/-- The type of a map's keys. -/
def keyType : Rule Unit := do
  match ← peek with
  | some (.word w) => if keyTypes.contains w then skip else fail
  | _ => fail

/-- A type that is a map if it says so. -/
def fieldType : Rule Unit := fun tokens =>
  match tokens with
  | .word "map" :: .symbol '<' :: rest =>
    (do
      keyType
      symbol ','
      typeName
      symbol '>' : Rule Unit) rest
  | tokens => typeName tokens

/-! ## Ranges -/

/-- An integer, which may have a sign if `signed`. -/
def bound (signed : Bool) : Rule Unit := do
  if signed then
    let _ ← optional (.symbol '-')
  integer

/-- A number or a range of numbers. -/
def range (signed : Bool) : Rule Unit := do
  bound signed
  if ← optional (.word "to") then
    if ← optional (.word "max") then pure () else bound signed

/-- What follows the word `reserved`: ranges, literals or names. -/
def reserved (signed : Bool) : Rule Unit := do
  match ← peek with
  | some .literal =>
    let _ ← separated ',' literal
  | some (.word _) =>
    let _ ← separated ',' name
  | _ =>
    let _ ← separated ',' (range signed)
  symbol ';'

/-- What follows the word `extensions`. -/
def extensions : Rule Unit := do
  let _ ← separated ',' (range false)
  bracketed
  symbol ';'

/-! ## Declarations -/

/-- An element of an enum. -/
def enumElement : Rule Unit := do
  match ← peek with
  | some (.symbol ';') => skip
  | some (.word "option") =>
    skip
    optionDeclaration
  | some (.word "reserved") =>
    skip
    reserved true
  | _ =>
    let _ ← name
    symbol '='
    bound true
    bracketed
    symbol ';'

/-- An enum after its first word, which gives its name. -/
def enum : Rule String := do
  let n ← name
  block enumElement
  return n

/-- An element of a `oneof`; `body` reads the elements of groups. -/
def choiceElement (body : Rule Unit) : Rule Unit := do
  match ← peek with
  | some (.symbol ';') => skip
  | some (.word "option") =>
    skip
    optionDeclaration
  | some (.word "group") =>
    skip
    group body
  | _ => field (typeNameExcept labels)

/-- An element of an extension; `body` reads the elements of groups. -/
def extensionElement (body : Rule Unit) : Rule Unit := do
  match ← peek with
  | some (.symbol ';') => skip
  | some (.word w) =>
    if labels.contains w then
      skip
      labelled body
    else field typeName
  | _ => field typeName

/-- An extension after its first word; `body` reads the elements of groups. -/
def extension (body : Rule Unit) : Rule Unit := do
  typeName
  block (extensionElement body)

/-- An element of a message, with messages nested at most `depth` times. -/
def messageElement : (depth : Nat) → Rule Unit
  | 0 => fail
  | depth + 1 => do
    match ← peek with
    | some (.symbol ';') => skip
    | some (.word "option") =>
      skip
      optionDeclaration
    | some (.word "message") =>
      skip
      let _ ← name
      block (messageElement depth)
    | some (.word "enum") =>
      skip
      let _ ← enum
    | some (.word "oneof") =>
      skip
      let _ ← name
      block (choiceElement (messageElement depth))
    | some (.word "extend") =>
      skip
      extension (messageElement depth)
    | some (.word "extensions") =>
      skip
      extensions
    | some (.word "reserved") =>
      skip
      reserved false
    | some (.word w) =>
      if labels.contains w then
        skip
        labelled (messageElement depth)
      else field fieldType
    | _ => field typeName

/-- An element of a message. -/
def messageBody : Rule Unit := fun tokens => messageElement (tokens.length + 1) tokens

/-- A message after its first word, which gives its name. -/
def message : Rule String := do
  let n ← name
  block messageBody
  return n

/-- The type of what an operation takes or gives; the word `stream` before it is not a part of
it. -/
def endpoint : Rule Unit := do
  symbol '('
  let _ ← optional (.word "stream")
  typeName
  symbol ')'

/-- An element of the body of an operation. -/
def operationElement : Rule Unit := do
  if ← optional (.symbol ';') then pure ()
  else
    keyword "option"
    optionDeclaration

/-- An element of a service. -/
def serviceElement : Rule Unit := do
  match ← peek with
  | some (.symbol ';') => skip
  | some (.word "option") =>
    skip
    optionDeclaration
  | _ =>
    keyword "rpc"
    let _ ← name
    endpoint
    keyword "returns"
    endpoint
    if ← optional (.symbol ';') then pure () else block operationElement

/-- A service after its first word, which gives its name. -/
def service : Rule String := do
  let n ← name
  block serviceElement
  return n

end Rule

end ProtoSchema.Proto
