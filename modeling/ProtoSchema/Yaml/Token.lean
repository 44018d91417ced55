import ProtoSchema.Yaml.Cursor

/-!
The tokens of a YAML text, and why a text is not YAML.
-/
namespace ProtoSchema.Yaml

/-- The reasons why a text cannot be read as YAML. -/
inductive SyntaxError where
  | controlCharacter
  | unexpectedCharacter
  | tabInIndentation
  | missingColon
  | entryNotAllowed
  | keyNotAllowed
  | valueNotAllowed
  | tooDeep
  | badDirective
  | badAnchor
  | badTag
  | badEscape
  | badBlockHeader
  | unterminatedQuote
  | unterminatedText
  | expectedNode
  | expectedEntry
  | expectedKey
  | expectedFlowEnd
  | expectedDocumentStart
  | unknownTagHandle
  | unknownAnchor
  | stuck
deriving Repr, DecidableEq, Inhabited

/-- How a scalar is written. -/
inductive ScalarStyle where
  | plain
  | quoted
  | block
deriving Repr, DecidableEq, Inhabited

/-- What a token says. -/
inductive TokenKind where
  | versionDirective (major minor : Nat)
  | tagDirective (handle stem : String)
  | documentStart
  | documentEnd
  | blockSequenceStart
  | blockMappingStart
  | blockEnd
  | flowSequenceStart
  | flowSequenceEnd
  | flowMappingStart
  | flowMappingEnd
  | blockEntry
  | flowEntry
  | key
  | value
  | aliasOf (name : String)
  | anchor (name : String)
  | tag (handle suffix : String)
  | scalar (text : String) (style : ScalarStyle)
  | streamEnd
deriving Repr, DecidableEq, Inhabited

/-- A token and the line, counted from zero, on which it starts. -/
structure Token where
  kind : TokenKind
  line : Nat
deriving Repr, Inhabited

/-- What one step of a repetition gives. -/
inductive Progress (σ ρ : Type) where
  | more (state : σ) (cursor : Cursor)
  | done (result : ρ)

/-- Repeats `step` until it is done, at most `fuel` times. -/
def repeatStep {σ ρ : Type} (step : σ → Cursor → Except SyntaxError (Progress σ ρ)) :
    (fuel : Nat) → σ → Cursor → Except SyntaxError ρ
  | 0, _, _ => .error .stuck
  | fuel + 1, state, cursor =>
    match step state cursor with
    | .error e => .error e
    | .ok (.done result) => .ok result
    | .ok (.more state cursor) => repeatStep step fuel state cursor

/-- Repeats `step` until it is done. As every step but the last reads a character, the number of
characters that are left bounds the repetition. -/
def readAll {σ ρ : Type} (step : σ → Cursor → Except SyntaxError (Progress σ ρ))
    (state : σ) (cursor : Cursor) : Except SyntaxError ρ :=
  repeatStep step (cursor.place.left + 1) state cursor

end ProtoSchema.Yaml
