import ProtoSchema.Proofs.Underscores

/-!
# Spelling a name again

A name in snake case is spelled again, as it is or in upper case. Its separators are in order by
then: there is one underscore between two words and none anywhere else (`Spaced`). All that the
second time can add are underscores where the case changes, and `splitCase` says where
(`snake_cons`).

* A name without upper-case letters gets none, so snake case is stable (`toSnake_toSnake`).
* In upper case every letter could begin a word. Lower-case letters are gone, so of the three rules
  only the one for a digit is left, and it applies to every letter after a digit
  (`snake_upperSnake`). So a name is read back from its upper case if and only if it has no letter
  after a digit (`toSnake_toUpperSnake_iff`).
-/

namespace ProtoSchema.Text

/-! ## Words that are apart -/

/-- What follows a kept character of a name in snake case: further kept characters, with at most one
underscore before each of them. -/
inductive Spaced : List Char → Prop
  | nil : Spaced []
  | kept {c : Char} {r : List Char} (hc : isSeparator c = false) (hr : Spaced r) : Spaced (c :: r)
  | next {c : Char} {r : List Char} (hc : isSeparator c = false) (hr : Spaced r) :
      Spaced ('_' :: c :: r)

theorem spaced_wordsFrom (before : Option Char) (started : Bool) (s : List Char) :
    Spaced (wordsFrom before started s) := by
  induction s generalizing before started with
  | nil => exact .nil
  | cons c r ih =>
    rw [wordsFrom]
    split
    · exact ih (some c) started
    · rename_i hc
      have hlow : isSeparator (lowered c) = false := isSeparator_lowered (by simpa using hc)
      split
      · exact .next hlow (ih (some c) true)
      · exact .kept hlow (ih (some c) true)

/-- A name in snake case is empty, or a kept character and what can follow it. -/
theorem snake_cases (s : List Char) :
    snake s = [] ∨ ∃ c r, snake s = c :: r ∧ isSeparator c = false ∧ Spaced r := by
  rw [snake_eq_wordsFrom]
  have hspaced := spaced_wordsFrom none false s
  cases hwords : wordsFrom none false s with
  | nil => exact .inl rfl
  | cons c r =>
    have hc : isSeparator c = false := head_wordsFrom (by rw [hwords]; rfl)
    rw [hwords] at hspaced
    cases hspaced with
    | kept _ hr => exact .inr ⟨c, r, rfl, hc, hr⟩
    | next _ _ => cases hc

theorem Spaced.map_toUpper {s : List Char} (h : Spaced s) : Spaced (s.map toUpper) := by
  induction h with
  | nil => exact .nil
  | kept hc _ ih => exact .kept (isSeparator_toUpper hc) ih
  | next hc _ ih => exact .next (isSeparator_toUpper hc) ih

/-- What becomes of the characters after `before` if an underscore is put only where the case
changes inside of a word. -/
def splitCase (before : Char) : List Char → List Char
  | [] => []
  | c :: r =>
    if isUpper c && !isSeparator before && beginsWord (some before) r then
      '_' :: lowered c :: splitCase c r
    else lowered c :: splitCase c r

theorem splitCase_of_not_upper {c : Char} (hc : isUpper c = false) (before : Char)
    (r : List Char) : splitCase before (c :: r) = c :: splitCase c r := by
  rw [splitCase, lowered, hc]
  rfl

theorem splitCase_of_separator {before : Char} (h : isSeparator before = true) (c : Char)
    (r : List Char) : splitCase before (c :: r) = lowered c :: splitCase c r := by
  rw [splitCase, h, Bool.not_true, Bool.and_false, Bool.false_and]
  rfl

theorem isUpper_underscore : isUpper '_' = false := by
  rw [← Bool.not_eq_true, isUpper_iff_of_ascii (by decide)]
  decide

/-- An underscore that is there already is dropped and put back before the character after it. -/
theorem wordsFrom_of_spaced {s : List Char} (h : Spaced s) {before : Char}
    (hbefore : isSeparator before = false) :
    wordsFrom (some before) true s = splitCase before s := by
  induction h generalizing before with
  | nil => rfl
  | @kept c r hc _ ih =>
    rw [wordsFrom, splitCase, ih hc, hc, hbefore]
    simp [hbefore]
  | @next c r hc _ ih =>
    have hline : isSeparator '_' = true := by decide
    have hword : wordsFrom (some '_') true (c :: r) = '_' :: lowered c :: splitCase c r := by
      rw [wordsFrom, ih hc, hc]
      simp [hline]
    rw [wordsFrom, if_pos hline, hword, splitCase_of_not_upper isUpper_underscore,
      splitCase_of_separator hline]

/-- A name whose words are apart is only split where the case changes. -/
theorem snake_cons {c : Char} {r : List Char} (hc : isSeparator c = false) (hr : Spaced r) :
    snake (c :: r) = lowered c :: splitCase c r := by
  rw [snake_eq_wordsFrom, wordsFrom, wordsFrom_of_spaced hr hc, hc]
  rfl

/-! ## Snake case again -/

/-- No upper-case letter of the name has an upper-case letter as its lower-case form. A letter that
has no lower-case form is its own. -/
def LosesCapitals (s : List Char) : Prop :=
  ∀ c ∈ s, isUpper c = true → isUpper (toLower c) = false

instance (s : List Char) : Decidable (LosesCapitals s) :=
  List.decidableBAll (fun c => isUpper c = true → isUpper (toLower c) = false) s

theorem LosesCapitals.isUpper_lowered {s : List Char} (h : LosesCapitals s) {c : Char}
    (hc : c ∈ s) : isUpper (lowered c) = false := by
  unfold lowered
  split
  · rename_i hupper
    exact h c hc hupper
  · rename_i hupper
    simpa using hupper

/-- Every character that is put into a name is an underscore or comes from one of the name. -/
theorem mem_wordsFrom_cases {before : Option Char} {started : Bool} {s : List Char} {c : Char}
    (h : c ∈ wordsFrom before started s) : c = '_' ∨ ∃ d ∈ s, c = lowered d := by
  induction s generalizing before started with
  | nil => cases h
  | cons d r ih =>
    have hlater {started : Bool} (h : c ∈ wordsFrom (some d) started r) :
        c = '_' ∨ ∃ e ∈ d :: r, c = lowered e := by
      rcases ih h with hline | ⟨e, he, hc⟩
      · exact .inl hline
      · exact .inr ⟨e, List.mem_cons_of_mem d he, hc⟩
    have hhere (h : c ∈ lowered d :: wordsFrom (some d) true r) :
        c = '_' ∨ ∃ e ∈ d :: r, c = lowered e := by
      rcases List.mem_cons.mp h with hc | hrest
      · exact .inr ⟨d, List.mem_cons_self, hc⟩
      · exact hlater hrest
    rw [wordsFrom] at h
    split at h
    · exact hlater h
    · split at h
      · rcases List.mem_cons.mp h with hline | h
        · exact .inl hline
        · exact hhere h
      · exact hhere h

theorem mem_snake {s : List Char} {c : Char} (h : c ∈ snake s) :
    c = '_' ∨ ∃ d ∈ s, c = lowered d := by
  rw [snake_eq_wordsFrom] at h
  exact mem_wordsFrom_cases h

theorem LosesCapitals.isUpper_snake {s : List Char} (h : LosesCapitals s) :
    ∀ c ∈ snake s, isUpper c = false := by
  intro c hc
  rcases mem_snake hc with rfl | ⟨d, hd, rfl⟩
  · exact isUpper_underscore
  · exact h.isUpper_lowered hd

theorem splitCase_eq_self {s : List Char} (h : ∀ c ∈ s, isUpper c = false) (before : Char) :
    splitCase before s = s := by
  induction s generalizing before with
  | nil => rfl
  | cons c r ih =>
    rw [splitCase_of_not_upper (h c (by simp)), ih fun d hd => h d (by simp [hd])]

theorem snake_snake {s : List Char} (h : LosesCapitals s) : snake (snake s) = snake s := by
  have hupper := h.isUpper_snake
  rcases snake_cases s with hnil | ⟨c, r, hsnake, hc, hr⟩
  · rw [hnil]
    rfl
  · rw [hsnake] at hupper ⊢
    have hfirst : lowered c = c := by
      rw [lowered, hupper c (by simp)]
      rfl
    rw [snake_cons hc hr, hfirst, splitCase_eq_self fun d hd => hupper d (by simp [hd])]

/-- All characters of the name belong to ASCII. -/
def IsAscii (s : List Char) : Prop := ∀ c ∈ s, c.toNat < 128

instance (s : List Char) : Decidable (IsAscii s) :=
  List.decidableBAll (fun c : Char => c.toNat < 128) s

theorem IsAscii.losesCapitals {s : List Char} (h : IsAscii s) : LosesCapitals s := by
  intro c hc hupper
  have hcapital := (isUpper_iff_of_ascii (h c hc)).mp hupper
  have hlow : (toLower c).toNat = c.toNat + 32 := by
    rw [toNat_toLower_of_ascii (h c hc), if_pos hcapital]
  rw [← Bool.not_eq_true, isUpper_iff_of_ascii (by omega)]
  omega

theorem toNat_lowered_of_ascii {c : Char} (hc : c.toNat < 128) : (lowered c).toNat < 128 := by
  unfold lowered
  split
  · rw [toNat_toLower_of_ascii hc]
    split <;> omega
  · exact hc

theorem IsAscii.snake {s : List Char} (h : IsAscii s) : IsAscii (snake s) := by
  intro c hc
  rcases mem_snake hc with rfl | ⟨d, hd, rfl⟩
  · decide
  · exact toNat_lowered_of_ascii (h d hd)

/-- Snake case is stable: a name in snake case is left as it is, if no capital of the name it comes
from has a capital as its lower-case form. No capital of ASCII has. -/
theorem toSnake_toSnake (name : String) :
    (LosesCapitals name.toList → toSnake (toSnake name) = toSnake name) ∧
      (IsAscii name.toList → LosesCapitals name.toList) := by
  refine ⟨fun h => ?_, IsAscii.losesCapitals⟩
  rw [toSnake, toSnake, String.toList_ofList, snake_snake h]

/-- Separators of all kinds, an acronym, a digit before a capital, and letters outside of ASCII with
and without case. -/
theorem toSnake_toSnake_mixed :
    let name := "--ÄpfelHTTPServer.V2Ω 漢字X__"
    LosesCapitals name.toList ∧ toSnake name = "äpfel_http_server_v2_ω_漢字x" ∧
      toSnake "äpfel_http_server_v2_ω_漢字x" = "äpfel_http_server_v2_ω_漢字x" := by
  intro name
  have hcapitals : LosesCapitals name.toList := by decide +kernel
  have hsnake : toSnake name = "äpfel_http_server_v2_ω_漢字x" := by decide +kernel
  have hstable := (toSnake_toSnake name).1 hcapitals
  rw [hsnake] at hstable
  exact ⟨hcapitals, hsnake, hstable⟩

-- The double-struck capital has no lower-case form: behind a letter in lower case it begins a word.
example : toSnake "Aℂ" = "aℂ" ∧ toSnake "aℂ" = "a_ℂ" := by decide +kernel

/-! ## Reading upper case back -/

theorem isDigit_iff {c : Char} : c.isDigit = true ↔ 48 ≤ c.toNat ∧ c.toNat ≤ 57 := by
  have hdigit : c.isDigit = (decide ((48 : UInt32) ≤ c.val) && decide (c.val ≤ 57)) := rfl
  rw [hdigit, Bool.and_eq_true, decide_eq_true_eq, decide_eq_true_eq, UInt32.le_iff_toNat_le,
    UInt32.le_iff_toNat_le]
  rfl

theorem isAlpha_iff {c : Char} :
    c.isAlpha = true ↔ 65 ≤ c.toNat ∧ c.toNat ≤ 90 ∨ 97 ≤ c.toNat ∧ c.toNat ≤ 122 := by
  have hletter : c.isAlpha = (decide ((65 : UInt32) ≤ c.val ∧ c.val ≤ 90) ||
      (decide ((97 : UInt32) ≤ c.val) && decide (c.val ≤ 122))) := rfl
  simp only [hletter, Bool.or_eq_true, Bool.and_eq_true, decide_eq_true_eq,
    UInt32.le_iff_toNat_le]
  rfl

/-- A character of ASCII that is no capital. -/
def IsSmall (c : Char) : Prop := c.toNat < 128 ∧ ¬ (65 ≤ c.toNat ∧ c.toNat ≤ 90)

theorem IsAscii.isSmall_of_mem_snake {s : List Char} (h : IsAscii s) :
    ∀ c ∈ Text.snake s, IsSmall c := by
  intro c hc
  have hascii := h.snake c hc
  have hupper := h.losesCapitals.isUpper_snake c hc
  rw [← Bool.not_eq_true, isUpper_iff_of_ascii hascii] at hupper
  exact ⟨hascii, hupper⟩

namespace IsSmall

variable {c : Char} (h : IsSmall c)

include h

theorem toNat_toUpper_lt : (toUpper c).toNat < 128 := by
  obtain ⟨hascii, -⟩ := h
  rw [toNat_toUpper_of_ascii hascii]
  split <;> omega

/-- In upper case every letter is a capital. -/
theorem isUpper_toUpper : isUpper (toUpper c) = c.isAlpha := by
  have hupper := h.toNat_toUpper_lt
  obtain ⟨hascii, hsmall⟩ := h
  rw [Bool.eq_iff_iff, isUpper_iff_of_ascii hupper, isAlpha_iff, toNat_toUpper_of_ascii hascii]
  split <;> omega

theorem isLower_toUpper : isLower (toUpper c) = false := by
  have hupper := h.toNat_toUpper_lt
  obtain ⟨hascii, -⟩ := h
  rw [← Bool.not_eq_true, isLower_iff_of_ascii hupper, toNat_toUpper_of_ascii hascii]
  split <;> omega

theorem isDigit_toUpper : isDigit (toUpper c) = c.isDigit := by
  have hupper := h.toNat_toUpper_lt
  obtain ⟨hascii, -⟩ := h
  rw [Bool.eq_iff_iff, isDigit_iff_of_ascii hupper, isDigit_iff, toNat_toUpper_of_ascii hascii]
  split <;> omega

theorem lowered_toUpper : lowered (toUpper c) = c := by
  have hupper := h.toNat_toUpper_lt
  obtain ⟨hascii, hsmall⟩ := h
  have hmoved := toNat_toUpper_of_ascii hascii
  have hcapital := isUpper_iff_of_ascii hupper
  rw [← Char.toNat_inj, lowered]
  by_cases hletter : 97 ≤ c.toNat ∧ c.toNat ≤ 122
  · rw [if_pos hletter] at hmoved
    rw [if_pos (hcapital.mpr (by omega)), toNat_toLower_of_ascii hupper, if_pos (by omega)]
    omega
  · rw [if_neg hletter] at hmoved
    rw [if_neg (hcapital.not.mpr (by omega))]
    exact hmoved

end IsSmall

theorem isSeparator_of_isDigit {c : Char} (h : c.isDigit = true) : isSeparator c = false := by
  have hdigits : Run.contains (48, 57, 1) c.toNat = true :=
    Run.contains_one_iff.mpr (isDigit_iff.mp h)
  have hapart : separators.all (fun r => Run.apart (48, 57, 1) r) = true := by decide
  rw [isSeparator_eq_has, CharSet.has, List.any_eq_false]
  intro r hr
  rw [Run.not_contains_of_apart (List.all_eq_true.mp hapart r hr) hdigits]
  exact Bool.false_ne_true

/-- Of the rules for the beginning of a word only the one for a digit applies in upper case. -/
theorem beginsWord_toUpper {before : Char} {r : List Char} (hbefore : IsSmall before)
    (hr : ∀ c ∈ r, IsSmall c) :
    beginsWord (some (toUpper before)) (r.map toUpper) = before.isDigit := by
  have hnext : (r.map toUpper).head?.any isLower = false := by
    cases r with
    | nil => rfl
    | cons c r => exact (hr c List.mem_cons_self).isLower_toUpper
  rw [beginsWord, hnext, Option.any_some, hbefore.isLower_toUpper, hbefore.isDigit_toUpper,
    Bool.false_or, Bool.or_false]

/-- A name with an underscore between every digit and a letter that follows it. -/
def digitsApart : List Char → List Char
  | d :: c :: r =>
    if d.isDigit && c.isAlpha then d :: '_' :: digitsApart (c :: r) else d :: digitsApart (c :: r)
  | s => s

theorem splitCase_toUpper {before : Char} {s : List Char} (hbefore : IsSmall before)
    (hs : ∀ c ∈ s, IsSmall c) :
    before :: splitCase (toUpper before) (s.map toUpper) = digitsApart (before :: s) := by
  induction s generalizing before with
  | nil => rfl
  | cons c r ih =>
    have hc : IsSmall c := hs c List.mem_cons_self
    have hr : ∀ d ∈ r, IsSmall d := fun d hd => hs d (List.mem_cons_of_mem c hd)
    rw [List.map_cons, splitCase, beginsWord_toUpper hbefore hr, hc.isUpper_toUpper,
      hc.lowered_toUpper, ih hc hr, digitsApart]
    by_cases hdigit : before.isDigit = true
    · rw [hdigit, isSeparator_toUpper (isSeparator_of_isDigit hdigit)]
      by_cases hletter : c.isAlpha = true
      · simp [hletter]
      · simp [hletter]
    · simp [hdigit]

/-- What is read back from the upper case of a name has its letters apart from its digits. -/
theorem snake_upperSnake {s : List Char} (h : IsAscii s) :
    snake (upperSnake s) = digitsApart (snake s) := by
  have hsmall := h.isSmall_of_mem_snake
  rw [upperSnake]
  rcases snake_cases s with hnil | ⟨c, r, hsnake, hc, hr⟩
  · rw [hnil]
    rfl
  · rw [hsnake] at hsmall ⊢
    have hfirst : IsSmall c := hsmall c List.mem_cons_self
    have hrest : ∀ d ∈ r, IsSmall d := fun d hd => hsmall d (List.mem_cons_of_mem c hd)
    rw [List.map_cons, snake_cons (isSeparator_toUpper hc) hr.map_toUpper,
      hfirst.lowered_toUpper, splitCase_toUpper hfirst hrest]

/-- Somewhere in the text a letter follows a digit. -/
def HasLetterAfterDigit (s : List Char) : Prop :=
  ∃ d c, d.isDigit = true ∧ c.isAlpha = true ∧ [d, c] <:+: s

theorem not_hasLetterAfterDigit_iff {s : List Char} :
    ¬ HasLetterAfterDigit s ↔ s.IsChain fun d c => ¬ (d.isDigit = true ∧ c.isAlpha = true) := by
  rw [List.isChain_iff_forall_rel_of_append_cons_cons]
  constructor
  · rintro h d c left right hsplit ⟨hd, hc⟩
    exact h ⟨d, c, hd, hc, left, right, by simp [hsplit]⟩
  · rintro h ⟨d, c, hd, hc, left, right, hsplit⟩
    have hs : s = left ++ d :: c :: right := by simp [← hsplit]
    exact h hs ⟨hd, hc⟩

theorem digitsApart_eq_self_iff {s : List Char} : digitsApart s = s ↔ ¬ HasLetterAfterDigit s := by
  rw [not_hasLetterAfterDigit_iff]
  induction s with
  | nil => simp [digitsApart]
  | cons d r ih =>
    cases r with
    | nil => simp [digitsApart]
    | cons c r =>
      rw [digitsApart, List.isChain_cons_cons, ← ih]
      by_cases hpair : d.isDigit = true ∧ c.isAlpha = true
      · -- the letter of the name stands where the underscore should be
        have hne : '_' ≠ c := by
          rintro rfl
          exact absurd hpair.2 (by decide)
        simp [hpair, hne]
      · simp [hpair]

/-- A name of ASCII is read back from its upper case if and only if no letter follows a digit in its
snake case. Then its upper case is stable too. -/
theorem toSnake_toUpperSnake_iff {name : String} (h : IsAscii name.toList) :
    (toSnake (toUpperSnake name) = toSnake name ↔ ¬ HasLetterAfterDigit (toSnake name).toList) ∧
      (¬ HasLetterAfterDigit (toSnake name).toList →
        toUpperSnake (toUpperSnake name) = toUpperSnake name) := by
  have hread : toSnake (toUpperSnake name) = String.ofList (digitsApart (snake name.toList)) := by
    rw [toSnake, toUpperSnake, String.toList_ofList, snake_upperSnake h]
  have hiff : toSnake (toUpperSnake name) = toSnake name ↔
      ¬ HasLetterAfterDigit (toSnake name).toList := by
    rw [hread, toSnake, String.ofList_inj, String.toList_ofList, digitsApart_eq_self_iff]
  refine ⟨hiff, fun hnone => ?_⟩
  have hback : snake (toUpperSnake name).toList = snake name.toList :=
    String.ofList_inj.mp (hiff.mpr hnone)
  rw [toUpperSnake, upperSnake, hback]
  rfl

/-- Digits at the end of a word do no harm; a letter right behind one begins a word in upper case. -/
theorem toSnake_toUpperSnake_iff_digits :
    IsAscii "getHTTPReply2 v_3".toList ∧
      ¬ HasLetterAfterDigit (toSnake "getHTTPReply2 v_3").toList ∧
      toUpperSnake (toUpperSnake "getHTTPReply2 v_3") = "GET_HTTP_REPLY2_V_3" ∧
      IsAscii "sha256sum".toList ∧ HasLetterAfterDigit (toSnake "sha256sum").toList ∧
      toSnake (toUpperSnake "sha256sum") = "sha256_sum" := by
  have hgood : IsAscii "getHTTPReply2 v_3".toList := by decide +kernel
  have hbad : IsAscii "sha256sum".toList := by decide +kernel
  obtain ⟨hiff, hstable⟩ := toSnake_toUpperSnake_iff hgood
  have hnone := hiff.mp (by decide +kernel)
  have hupper : toUpperSnake "getHTTPReply2 v_3" = "GET_HTTP_REPLY2_V_3" := by decide +kernel
  have hread : toSnake (toUpperSnake "sha256sum") = "sha256_sum" := by decide +kernel
  have hsome : HasLetterAfterDigit (toSnake "sha256sum").toList := by
    by_contra hnone
    have hsame := (toSnake_toUpperSnake_iff hbad).1.mpr hnone
    rw [hread] at hsame
    exact absurd hsame (by decide +kernel)
  exact ⟨hgood, hnone, (hstable hnone).trans hupper, hbad, hsome, hread⟩

end ProtoSchema.Text
