import ProtoSchema.Command.Record
import ProtoSchema.Text.Quoted

/-!
Flags of a command line. Long flags are written `--name value` or `--name=value`, short ones
`-n value`, `-nvalue` or `-n=value`. Flags and other words may stand in any order; after `--` there
are no more flags.
-/
namespace ProtoSchema.Command

/-- Why a value does not fit a flag. -/
inductive ValueError where
  | notBool (text : String)
  | notRecord (cause : RecordError)
deriving Repr, DecidableEq, Inhabited

/-- The wording of an error. -/
def ValueError.message : ValueError → String
  | notBool text => "strconv.ParseBool: parsing " ++ Text.quote text ++ ": invalid syntax"
  | notRecord cause => cause.message

/-- A flag that changes settings of type `σ`. One with an `implied` value takes another only after
an equals sign. -/
structure Flag (σ : Type) where
  name : String
  short : Option Char := none
  implied : Option String := none
  put : String → σ → Except ValueError σ

/-- Why flags cannot be read. -/
inductive FlagError where
  | malformed (word : String)
  | unknown (name : String)
  | unknownShort (letters : List Char)
  | missing (name : String)
  | missingShort (letter : Char)
  | unfit (value flag : String) (cause : ValueError)
deriving Repr, DecidableEq, Inhabited

/-- The letter by which a message names letters that are no flags: the first of them, or `Ã` for any
letter beyond ASCII. -/
def namedLetter : List Char → Char
  | [] => ' '
  | c :: _ => if c.toNat < 128 then c else 'Ã'

/-- The wording of an error. -/
def FlagError.message : FlagError → String
  | malformed word => "bad flag syntax: " ++ word
  | unknown name => "unknown flag: --" ++ name
  | unknownShort letters =>
    "unknown shorthand flag: " ++ Text.quoteChar (namedLetter letters) ++ " in -" ++
      String.ofList letters
  | missing name => "flag needs an argument: --" ++ name
  | missingShort letter =>
    "flag needs an argument: " ++ Text.quoteChar letter ++ " in -" ++ String.singleton letter
  | unfit value flag cause =>
    "invalid argument " ++ Text.quote value ++ " for " ++ Text.quote flag ++ " flag: " ++
      cause.message

namespace Flag

variable {σ : Type}

/-! ## Kinds of flags -/

/-- The words for true. -/
def trueWords : List String := ["1", "t", "T", "true", "TRUE", "True"]

/-- The words for false. -/
def falseWords : List String := ["0", "f", "F", "false", "FALSE", "False"]

/-- Reads a truth value. -/
def readBool (text : String) : Except ValueError Bool :=
  if trueWords.contains text then .ok true
  else if falseWords.contains text then .ok false
  else .error (.notBool text)

/-- A flag with a text. -/
def text (name : String) (put : String → σ → σ) : Flag σ where
  name := name
  put := fun value s => .ok (put value s)

/-- A flag with a truth value, true if none is given. -/
def toggle (name : String) (put : Bool → σ → σ) : Flag σ where
  name := name
  implied := some "true"
  put := fun value s => (readBool value).map fun b => put b s

/-- A flag with a record of names. -/
def names (name : String) (put : List String → σ → σ) : Flag σ where
  name := name
  put := fun value s =>
    match Record.read value with
    | .ok fields => .ok (put fields s)
    | .error e => .error (.notRecord e)

/-- The same flag with a letter. -/
def withShort (letter : Char) (f : Flag σ) : Flag σ := { f with short := some letter }

/-! ## Reading -/

/-- How a flag is named in messages. -/
def title (f : Flag σ) : String :=
  match f.short with
  | some c => "-" ++ String.singleton c ++ ", --" ++ f.name
  | none => "--" ++ f.name

/-- Sets a flag. -/
def set (f : Flag σ) (value : String) (s : σ) : Except FlagError σ :=
  (f.put value s).mapError (.unfit value f.title)

/-- What a word does: it is no flag, it ends the flags, it sets a flag, or it names a flag whose
value is the next word. -/
inductive Effect (σ : Type) where
  | word
  | stop
  | done (settings : Except FlagError σ)
  | pending (f : Flag σ) (missing : FlagError)

/-- The effect of a long flag, of which `body` follows the dashes. -/
def longEffect (flags : List (Flag σ)) (s : σ) (body : List Char) : Effect σ :=
  let name := String.ofList (body.takeWhile (· != '='))
  match body with
  | [] => .stop
  | c :: _ =>
    if c == '-' || c == '=' then .done (.error (.malformed (String.ofList ('-' :: '-' :: body))))
    else
      match flags.find? (·.name == name) with
      | none => .done (.error (.unknown name))
      | some f =>
        match body.dropWhile (· != '='), f.implied with
        | _ :: value, _ => .done (f.set (String.ofList value) s)
        | [], some value => .done (f.set value s)
        | [], none => .pending f (.missing name)

/-- The effect of short flags, each a letter. -/
def shortEffect (flags : List (Flag σ)) (s : σ) : List Char → Effect σ
  | [] => .done (.ok s)
  | c :: r =>
    match flags.find? (·.short == some c) with
    | none => .done (.error (.unknownShort (c :: r)))
    | some f =>
      match r, f.implied with
      | '=' :: v :: vs, _ => .done (f.set (String.ofList (v :: vs)) s)
      | r, some value =>
        match f.set value s with
        | .error e => .done (.error e)
        | .ok s => shortEffect flags s r
      | [], none => .pending f (.missingShort c)
      | r, none => .done (f.set (String.ofList r) s)

/-- The effect of a word. -/
def effect (flags : List (Flag σ)) (s : σ) (word : String) : Effect σ :=
  match word.toList with
  | '-' :: '-' :: body => longEffect flags s body
  | '-' :: c :: r => shortEffect flags s (c :: r)
  | _ => .word

/-- Reads flags from words; gives the settings and the words that are left. -/
def parse (flags : List (Flag σ)) : σ → List String → Except FlagError (σ × List String)
  | s, [] => .ok (s, [])
  | s, word :: words =>
    match effect flags s word with
    | .word => do
      let (s, rest) ← parse flags s words
      .ok (s, word :: rest)
    | .stop => .ok (s, words)
    | .done result => do
      let s ← result
      parse flags s words
    | .pending f missing =>
      match words with
      | [] => .error missing
      | value :: words => do
        let s ← f.set value s
        parse flags s words

end Flag

end ProtoSchema.Command
