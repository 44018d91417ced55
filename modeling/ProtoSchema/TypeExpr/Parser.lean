import ProtoSchema.Text.Quoted
import ProtoSchema.Text.Words
import ProtoSchema.TypeExpr

/-!
Reading type expressions: `Name`, `[T]`, `{K: V}` and `T?`, with white space around every part.
-/
namespace ProtoSchema.TypeExpr

open Text

/-- Why a text is no type expression; all but the empty one quote the part that is wrong. -/
inductive ParseError where
  | empty
  | unterminatedList (expr : String)
  | unterminatedMap (expr : String)
  | incompleteMap (expr : String)
  | invalidName (expr : String)
deriving Repr, DecidableEq, Inhabited

/-- The wording of an error. -/
def ParseError.message : ParseError → String
  | empty => "empty type expression"
  | unterminatedList expr => "type " ++ quote expr ++ ": unterminated list"
  | unterminatedMap expr => "type " ++ quote expr ++ ": unterminated map"
  | incompleteMap expr => "type " ++ quote expr ++ ": map needs a key and a value"
  | invalidName expr => "type " ++ quote expr ++ ": invalid type name"

/-- Whether a name may not contain the character. -/
def isReserved (c : Char) : Bool := ['[', ']', '{', '}', ':', '?', ' ', '\t'].contains c

/-- How a character changes the depth of brackets. -/
def depthChange (c : Char) : Int :=
  if c == '[' || c == '{' then 1 else if c == ']' || c == '}' then -1 else 0

/-- Splits at the first colon outside of all brackets, where the text starts at the depth
`depth`. -/
def splitColon (depth : Int) : List Char → Option (List Char × List Char)
  | [] => none
  | c :: r =>
    if c == ':' && depth == 0 then some ([], r)
    else (splitColon (depth + depthChange c) r).map fun (k, v) => (c :: k, v)

theorem length_splitColon {depth : Int} {s k v : List Char} (h : splitColon depth s = some (k, v)) :
    k.length + v.length + 1 = s.length := by
  induction s generalizing depth k v with
  | nil => simp [splitColon] at h
  | cons c r ih =>
    unfold splitColon at h
    split at h
    · simp only [Option.some.injEq, Prod.mk.injEq] at h
      obtain ⟨rfl, rfl⟩ := h
      simp
    · simp only [Option.map_eq_some_iff, Prod.mk.injEq, Prod.exists] at h
      obtain ⟨k', v', h', rfl, rfl⟩ := h
      have := ih h'
      simp only [List.length_cons]
      omega

theorem length_trim_le (s : List Char) : (trim s).length ≤ s.length := by
  unfold trim trimEndWhile trimStart
  have h₁ := length_dropWhile_le isSpace s
  have h₂ := length_dropWhile_le isSpace (s.dropWhile isSpace).reverse
  simp only [List.length_reverse] at h₂ ⊢
  omega

/-- Reads a type expression. -/
def parseChars (expr : List Char) : Except ParseError TypeExpr :=
  match _hs : trim expr with
  | [] => .error .empty
  | c :: r =>
    if (c :: r).getLast? = some '?' then
      (parseChars (c :: r).dropLast).map optional
    else if c = '[' then
      if r.getLast? = some ']' then (parseChars r.dropLast).map list
      else .error (.unterminatedList (String.ofList expr))
    else if c = '{' then
      if r.getLast? = some '}' then
        match _hc : splitColon 0 r.dropLast with
        | none => .error (.incompleteMap (String.ofList expr))
        | some (k, v) =>
          match parseChars k with
          | .error e => .error e
          | .ok key => (parseChars v).map (map key)
      else .error (.unterminatedMap (String.ofList expr))
    else if (c :: r).any isReserved then .error (.invalidName (String.ofList expr))
    else .ok (named (String.ofList (c :: r)))
termination_by expr.length
decreasing_by
  all_goals
    have hle := length_trim_le expr
    simp only [_hs, List.length_cons] at hle
  · simp only [List.length_dropLast, List.length_cons]
    omega
  · simp only [List.length_dropLast]
    omega
  · have := length_splitColon _hc
    simp only [List.length_dropLast] at this
    omega
  · have := length_splitColon _hc
    simp only [List.length_dropLast] at this
    omega

/-- Reads a type expression. -/
def parse (expr : String) : Except ParseError TypeExpr := parseChars expr.toList

end ProtoSchema.TypeExpr
