import Mathlib.Data.List.TakeWhile
import ProtoSchema.Proofs.Comments
import ProtoSchema.Proto.Token.Scan

/-!
# Reading tokens back

What the tokens of a text are if it starts with a word, a number, a symbol, a literal or a comment.
A word or a number goes as far as it can, so what follows it must not go on with it (`Ends`). A
comment goes to the end of its line, and is nothing.

These facts are used from left to right: each takes the first token off a text and leaves the tokens
of the rest.
-/

namespace ProtoSchema

namespace Proto

open Text Token

/-- The tokens of a text, without their places. -/
def tokens (s : List Char) : List Token := (scan s).map (·.1)

/-! ## The first token -/

theorem map_fst_scanFrom (i j : Nat) (s : List Char) :
    (scanFrom i s).map (·.1) = (scanFrom j s).map (·.1) := by
  fun_induction scanFrom i s generalizing j with
  | case1 i => rw [scanFrom]
  | case2 i c r more hstep ih =>
    rw [scanFrom, hstep]
    exact ih _
  | case3 i c r t more hstep ih =>
    rw [scanFrom, hstep, List.map_cons, List.map_cons]
    exact congrArg (t :: ·) (ih _)
  | case4 i c r distance hstep =>
    rw [scanFrom, hstep]
    rfl

@[simp] theorem tokens_nil : tokens [] = [] := by
  rw [tokens, scan, scanFrom]
  rfl

theorem tokens_of_gap {c : Char} {r : List Char} {more : Nat} (h : step c r = .gap more) :
    tokens (c :: r) = tokens (r.drop more) := by
  rw [tokens, scan, scanFrom, h]
  exact map_fst_scanFrom _ 0 _

theorem tokens_of_token {c : Char} {r : List Char} {t : Token} {more : Nat}
    (h : step c r = .token t more) : tokens (c :: r) = t :: tokens (r.drop more) := by
  rw [tokens, scan, scanFrom, h]
  exact congrArg (t :: ·) (map_fst_scanFrom _ 0 _)

/-! ## Blanks and symbols -/

theorem tokens_blank {c : Char} (h : isBlank c = true) (r : List Char) :
    tokens (c :: r) = tokens r :=
  tokens_of_gap (show step c r = .gap 0 by rw [step, if_pos h])

@[simp] theorem tokens_space (r : List Char) : tokens (' ' :: r) = tokens r :=
  tokens_blank (by decide) r

@[simp] theorem tokens_newline (r : List Char) : tokens ('\n' :: r) = tokens r :=
  tokens_blank (by decide) r

theorem tokens_spaces {v : List Char} (hv : ∀ c ∈ v, c = ' ') (r : List Char) :
    tokens (v ++ r) = tokens r := by
  induction v with
  | nil => rfl
  | cons c v ih =>
    rw [hv c List.mem_cons_self, List.cons_append, tokens_space,
      ih fun d hd => hv d (List.mem_cons_of_mem c hd)]

/-- The symbols that are tokens whatever follows them. -/
def plainSymbols : List Char := [';', ',', '=', '-', '(', ')', '\x7b', '\x7d', '<', '>']

theorem tokens_symbol {c : Char} (h : c ∈ plainSymbols) (r : List Char) :
    tokens (c :: r) = symbol c :: tokens r := by
  have hstep : step c r = .token (symbol c) 0 := by
    simp only [plainSymbols, List.mem_cons, List.not_mem_nil, or_false] at h
    rcases h with rfl | rfl | rfl | rfl | rfl | rfl | rfl | rfl | rfl | rfl <;> rfl
  exact tokens_of_token hstep

/-- A point is a symbol unless it starts a fraction. -/
theorem tokens_point {r : List Char} (h : ∀ c ∈ r.head?, Number.isDecimal c = false) :
    tokens ('.' :: r) = symbol '.' :: tokens r := by
  have hhead : r.head?.any Number.isDecimal = false := by
    cases hr : r.head? with
    | none => rfl
    | some c => exact h c hr
  have hstep : step '.' r = .token (symbol '.') 0 := by
    unfold step
    rw [hhead]
    rfl
  exact tokens_of_token hstep

/-! ## Words -/

/-- Whether the characters are a word. -/
def isWord : List Char → Bool
  | [] => false
  | c :: r => isWordStart c && r.all isWordChar

/-- The text does not go on with a word or a number that stands before it. -/
def Ends (rest : List Char) : Prop := ∀ c ∈ rest.head?, isWordChar c = false

theorem ends_cons {c : Char} (h : isWordChar c = false) (r : List Char) : Ends (c :: r) := by
  intro d hd
  cases hd
  exact h

theorem ends_space (r : List Char) : Ends (' ' :: r) := ends_cons (by decide) r

theorem ends_symbol {c : Char} (h : c ∈ plainSymbols) (r : List Char) : Ends (c :: r) := by
  have hchar : isWordChar c = false := by
    simp only [plainSymbols, List.mem_cons, List.not_mem_nil, or_false] at h
    rcases h with rfl | rfl | rfl | rfl | rfl | rfl | rfl | rfl | rfl | rfl <;> rfl
  exact ends_cons hchar r

theorem isBlank_of_isWordChar {c : Char} (h : isWordChar c = true) : isBlank c = false := by
  rw [← Bool.not_eq_true, isBlank, List.contains_iff_mem]
  intro hmem
  simp only [List.mem_cons, List.not_mem_nil, or_false] at hmem
  rcases hmem with rfl | rfl | rfl | rfl | rfl | rfl <;> exact absurd h (by decide)

theorem isWordChar_of_isWordStart {c : Char} (h : isWordStart c = true) : isWordChar c = true := by
  rw [isWordChar, h, Bool.true_or]

theorem isDecimal_of_isWordStart {c : Char} (h : isWordStart c = true) :
    Number.isDecimal c = false := by
  rw [← Bool.not_eq_true]
  intro hdigit
  simp only [isWordStart, Number.isDecimal, Bool.or_eq_true, Bool.and_eq_true, beq_iff_eq,
    decide_eq_true_eq, Char.le_def, UInt32.le_iff_toNat_le] at h hdigit
  rcases h with (rfl | h) | h
  · revert hdigit
    decide
  · have hlt : '9'.val.toNat < 'a'.val.toNat := by decide
    omega
  · have hlt : '9'.val.toNat < 'A'.val.toNat := by decide
    omega

theorem isWordChar_of_mem {w : List Char} {c : Char} (h : isWord w = true) (hc : c ∈ w) :
    isWordChar c = true := by
  cases w with
  | nil => cases hc
  | cons d r =>
    rw [isWord, Bool.and_eq_true] at h
    rcases List.mem_cons.mp hc with rfl | hr
    · exact isWordChar_of_isWordStart h.1
    · exact List.all_eq_true.mp h.2 c hr

theorem isWord_append {a b : List Char} (ha : isWord a = true) (hb : b.all isWordChar = true) :
    isWord (a ++ b) = true := by
  cases a with
  | nil => cases ha
  | cons c r =>
    rw [isWord, Bool.and_eq_true] at ha
    rw [List.cons_append, isWord, List.all_append, ha.1, ha.2, hb]
    rfl

theorem takeWhile_isWordChar {w rest : List Char} (hw : w.all isWordChar = true)
    (hrest : Ends rest) : (w ++ rest).takeWhile isWordChar = w := by
  rw [List.takeWhile_append_of_pos (List.all_eq_true.mp hw)]
  cases rest with
  | nil => simp
  | cons c r =>
    rw [List.takeWhile_cons_of_neg (by simp [hrest c rfl]), List.append_nil]

theorem tokens_word {w rest : List Char} (hw : isWord w = true) (hrest : Ends rest) :
    tokens (w ++ rest) = word (String.ofList w) :: tokens rest := by
  cases w with
  | nil => cases hw
  | cons c r =>
    rw [isWord, Bool.and_eq_true] at hw
    have hstep : step c (r ++ rest) = .token (word (String.ofList (c :: r))) r.length := by
      have hblank := isBlank_of_isWordChar (isWordChar_of_isWordStart hw.1)
      unfold step
      simp only [hblank, hw.1, takeWhile_isWordChar hw.2 hrest]
      rfl
    rw [List.cons_append, tokens_of_token hstep, List.drop_left]

theorem tokens_word_space {w : String} (hw : isWord w.toList = true) (rest : List Char) :
    tokens (w.toList ++ ' ' :: rest) = word w :: tokens rest := by
  rw [tokens_word hw (ends_space rest), tokens_space, String.ofList_toList]

theorem tokens_word_symbol {w : String} {c : Char} (hw : isWord w.toList = true)
    (hc : c ∈ plainSymbols) (rest : List Char) :
    tokens (w.toList ++ c :: rest) = word w :: symbol c :: tokens rest := by
  rw [tokens_word hw (ends_symbol hc rest), tokens_symbol hc, String.ofList_toList]

/-! ## Paths -/

/-- The parts of a name between its points. -/
def parts (s : String) : List String := (cut (· == '.') s.toList).map String.ofList

/-- Whether the text is words with points between them. -/
def isPath (s : String) : Bool := (parts s).all fun w => isWord w.toList

/-- Words with points between them, as tokens. -/
def pathTokens : List String → List Token
  | [] => []
  | w :: ws => word w :: ws.flatMap fun w => [symbol '.', word w]

theorem tokens_join {w : List Char} {ws : List (List Char)} (hw : isWord w = true)
    (hws : ∀ v ∈ ws, isWord v = true) {rest : List Char} (hrest : Ends rest) :
    tokens (join ['.'] (w :: ws) ++ rest) =
      pathTokens ((w :: ws).map String.ofList) ++ tokens rest := by
  induction ws generalizing w with
  | nil => exact tokens_word hw hrest
  | cons v ws ih =>
    have hv := hws v (by simp)
    have hstart : ∀ c ∈ (join ['.'] (v :: ws) ++ rest).head?, Number.isDecimal c = false := by
      intro c hc
      cases v with
      | nil => cases hv
      | cons d r =>
        have hhead : (join ['.'] ((d :: r) :: ws) ++ rest).head? = some d := by
          cases ws <;> rfl
        rw [hhead, Option.mem_some] at hc
        subst hc
        rw [isWord, Bool.and_eq_true] at hv
        exact isDecimal_of_isWordStart hv.1
    have hsplit : join ['.'] (w :: v :: ws) ++ rest =
        w ++ '.' :: (join ['.'] (v :: ws) ++ rest) := by
      simp [join]
    rw [hsplit, tokens_word hw (ends_cons (by decide) _), tokens_point hstart,
      ih hv fun u hu => hws u (by simp [hu])]
    rfl

theorem tokens_path {s : String} (h : isPath s = true) {rest : List Char} (hrest : Ends rest) :
    tokens (s.toList ++ rest) = pathTokens (parts s) ++ tokens rest := by
  obtain ⟨w, ws, hcut⟩ := List.exists_cons_of_ne_nil (cut_ne_nil (· == '.') s.toList)
  have hwords : ∀ v ∈ w :: ws, isWord v = true := by
    intro v hv
    simpa using List.all_eq_true.mp h (String.ofList v)
      (List.mem_map_of_mem (by rw [hcut]; exact hv))
  have hjoin := join_cut '.' s.toList
  rw [hcut] at hjoin
  rw [parts, hcut, ← hjoin]
  exact tokens_join (hwords w (by simp)) (fun v hv => hwords v (by simp [hv])) hrest

/-! ## Numbers -/

theorem isDecimal_of_mem_toDigits {n : Nat} {c : Char} (h : c ∈ Nat.toDigits 10 n) :
    Number.isDecimal c = true := by
  have hdigit := Nat.isDigit_of_mem_toDigits (by decide) (by decide) h
  simpa [Number.isDecimal, Char.isDigit, Char.le_def] using hdigit

/-- A number does not start with a zero, but for zero itself. -/
theorem head_toDigits {n : Nat} (h : (Nat.toDigits 10 n).head? = some '0') : n = 0 := by
  induction n using Nat.strongRecOn with
  | ind n ih =>
    rw [Nat.toDigits_eq_if (by decide)] at h
    split at h
    · rename_i hlt
      revert h
      have hall : ∀ m < 10, [m.digitChar].head? = some '0' → m = 0 := by decide
      exact hall n hlt
    · rename_i hge
      rw [List.head?_append, Option.or_of_isSome (by simp)] at h
      have hzero := ih (n / 10) (by omega) h
      omega

theorem digitsValue?_eq {ds : List Char} (h : ∀ c ∈ ds, Number.isDecimal c = true) (before : Nat) :
    digitsValue? 10 before ds = some (Nat.ofDigitChars 10 ds before) := by
  induction ds generalizing before with
  | nil => rfl
  | cons c r ih =>
    have hc := h c (by simp)
    have hlt : c.toNat - 48 < 10 := by
      simp only [Number.isDecimal, Bool.and_eq_true, decide_eq_true_eq, Char.le_def,
        UInt32.le_iff_toNat_le] at hc
      have hnine : '9'.val.toNat = 57 := rfl
      have hval : c.toNat = c.val.toNat := rfl
      omega
    rw [digitsValue?, hexValue?, if_pos hc]
    simp only [if_pos hlt]
    rw [ih (fun d hd => h d (by simp [hd])), Nat.ofDigitChars_cons, Nat.mul_comm before]
    rfl

theorem isWordChar_of_isDecimal {c : Char} (h : Number.isDecimal c = true) :
    isWordChar c = true := by
  rw [isWordChar, h, Bool.or_true]

theorem not_exponent {c : Char} (h : Number.isDecimal c = true) :
    (c == 'e' || c == 'E') = false := by
  rw [← Bool.not_eq_true, Bool.or_eq_true, beq_iff_eq, beq_iff_eq]
  rintro (rfl | rfl) <;> exact absurd h (by decide)

theorem numberLength_eq {ds rest : List Char} (h : ∀ c ∈ ds, Number.isDecimal c = true)
    (hrest : Ends rest) (hpoint : rest.head? ≠ some '.') :
    numberLength false (ds ++ rest) = ds.length := by
  induction ds with
  | nil =>
    cases rest with
    | nil => rfl
    | cons c r =>
      have hne : c ≠ '.' := fun hc => hpoint (by rw [hc]; rfl)
      rw [List.nil_append, numberLength]
      simp [hrest c rfl, hne]
  | cons c r ih =>
    have hc := h c (by simp)
    rw [List.cons_append, numberLength, not_exponent hc, ih fun d hd => h d (by simp [hd])]
    simp [isWordChar_of_isDecimal hc, Nat.add_comm]

theorem ofNumber?_toDigits {n : Nat} (h : n < integerLimit) :
    ofNumber? (Nat.toDigits 10 n) = some (integer n) := by
  have hdigits : ∀ c ∈ Nat.toDigits 10 n, Number.isDecimal c = true :=
    fun c hc => isDecimal_of_mem_toDigits hc
  have hany : ((Nat.toDigits 10 n).any fun c => c == '.' || c == 'e' || c == 'E') = false := by
    rw [List.any_eq_false]
    intro c hc hbad
    simp only [Bool.or_eq_true, beq_iff_eq] at hbad
    rcases hbad with (rfl | rfl) | rfl <;> exact absurd (hdigits _ hc) (by decide)
  have hwhole : whole? 10 (Nat.toDigits 10 n) = some n := by
    rw [whole?, if_neg (by simp), digitsValue?_eq hdigits, Nat.ofDigitChars_ten_toDigits]
  by_cases hzero : n = 0
  · subst hzero
    decide +kernel
  · have hhead : (Nat.toDigits 10 n).head? ≠ some '0' := fun hh => hzero (head_toDigits hh)
    unfold ofNumber?
    split
    · rename_i heq
      rw [heq] at hhead
      exact absurd rfl hhead
    · rename_i heq
      rw [heq] at hhead
      exact absurd rfl hhead
    · rw [hany, if_neg (by simp), if_neg hhead, hwhole, Option.map_some, if_pos h]

theorem tokens_natural {n : Nat} (h : n < integerLimit) {rest : List Char} (hrest : Ends rest)
    (hpoint : rest.head? ≠ some '.') :
    tokens ((toString n).toList ++ rest) = integer n :: tokens rest := by
  rw [Nat.toString_eq_ofList_toDigits, String.toList_ofList]
  have hnumber := ofNumber?_toDigits h
  have hdigits : ∀ c ∈ Nat.toDigits 10 n, Number.isDecimal c = true :=
    fun c hc => isDecimal_of_mem_toDigits hc
  cases hds : Nat.toDigits 10 n with
  | nil => exact absurd hds Nat.toDigits_ne_nil
  | cons c r =>
    rw [hds] at hnumber hdigits
    have hc := hdigits c (by simp)
    have hr : ∀ d ∈ r, Number.isDecimal d = true :=
      fun d hd => hdigits d (List.mem_cons_of_mem c hd)
    have hlength := numberLength_eq hr hrest hpoint
    have hstart : isWordStart c = false := by
      rw [← Bool.not_eq_true]
      intro hword
      simp [isDecimal_of_isWordStart hword] at hc
    have hstep : step c (r ++ rest) = .token (integer n) r.length := by
      simp only [step, isBlank_of_isWordChar (isWordChar_of_isDecimal hc), hstart, hc, numberStep,
        not_exponent hc, hlength, List.take_left, hnumber]
      rfl
    rw [List.cons_append, tokens_of_token hstep, List.drop_left]

/-- A sign is a token of its own. -/
def integerTokens (i : Int) : List Token :=
  if i < 0 then [symbol '-', integer i.natAbs] else [integer i.natAbs]

theorem tokens_integer {i : Int} (h : i.natAbs < integerLimit) {rest : List Char}
    (hrest : Ends rest) (hpoint : rest.head? ≠ some '.') :
    tokens ((toString i).toList ++ rest) = integerTokens i ++ tokens rest := by
  cases i with
  | ofNat n =>
    have hn : ¬ (Int.ofNat n < 0) := by simp
    rw [integerTokens, if_neg hn]
    exact tokens_natural h hrest hpoint
  | negSucc n =>
    have hrepr : (toString (Int.negSucc n)).toList = '-' :: (toString (n + 1)).toList := by
      change ("-" ++ Nat.repr (n + 1)).toList = _
      rw [String.toList_append]
      rfl
    rw [hrepr, List.cons_append, tokens_symbol (by decide),
      tokens_natural (show n + 1 < integerLimit from h) hrest hpoint, integerTokens,
      if_pos (Int.negSucc_lt_zero n)]
    rfl

/-! ## Literals and comments -/

/-- Whether the character stands for itself in a literal. -/
def isLiteralChar (c : Char) : Bool := c != '\n' && c != '"' && c != '\\' && c != '\x00'

theorem literalExtent_eq {cs : List Char} (h : cs.all isLiteralChar = true) (offset : Nat)
    (rest : List Char) :
    literalExtent '"' 0 offset [] (cs ++ '"' :: rest) = .closed (offset + cs.length + 1) := by
  induction cs generalizing offset with
  | nil => rfl
  | cons c r ih =>
    rw [List.all_cons, Bool.and_eq_true] at h
    simp only [isLiteralChar, Bool.and_eq_true, bne_iff_ne, ne_eq] at h
    obtain ⟨⟨⟨⟨hnewline, hquote⟩, hslash⟩, hnul⟩, hr⟩ := h
    rw [List.cons_append, literalExtent]
    simp only [beq_iff_eq, hnewline, hquote, hslash, hnul, if_false]
    rw [ih (by simpa [isLiteralChar] using hr), List.length_cons]
    congr 1
    omega

theorem tokens_literal {cs : List Char} (h : cs.all isLiteralChar = true) (rest : List Char) :
    tokens ('"' :: (cs ++ '"' :: rest)) = literal :: tokens rest := by
  have hstep : step '"' (cs ++ '"' :: rest) = .token literal (cs.length + 1) := by
    unfold step
    rw [literalExtent_eq h]
    simp only [show 1 + cs.length + 1 - 1 = cs.length + 1 by omega]
    rfl
  rw [tokens_of_token hstep]
  simp

/-- A comment goes to the end of its line. -/
theorem tokens_comment {cs : List Char} (h : ∀ c ∈ cs, c ≠ '\n' ∧ c ≠ '\x00') (rest : List Char) :
    tokens ('/' :: '/' :: (cs ++ '\n' :: rest)) = tokens rest := by
  have hline : (cs ++ '\n' :: rest).takeWhile (· != '\n') = cs := by
    rw [List.takeWhile_append_of_pos fun c hc => by simpa using (h c hc).1]
    simp
  have hnul : cs.contains '\x00' = false := by
    rw [← Bool.not_eq_true, List.contains_iff_mem]
    exact fun hmem => (h _ hmem).2 rfl
  have hstep : step '/' ('/' :: (cs ++ '\n' :: rest)) = .gap (cs.length + 1) := by
    have hslash : step '/' ('/' :: (cs ++ '\n' :: rest)) =
        slashStep ('/' :: (cs ++ '\n' :: rest)) := rfl
    rw [hslash, slashStep, hline, hnul]
    rfl
  rw [tokens_of_gap hstep, List.drop_succ_cons, List.drop_left, tokens_newline]

end Proto

end ProtoSchema
