import Mathlib.Data.List.Chain
import ProtoSchema.Proofs.Casing

/-!
# Underscores between words

`snake` looks back at what it has built and at the last character it has read, looks ahead at the
next one, and drops an underscore at the end. What it gives can be said place by place
(`toSnake_eq_pieces`): every character that is no separator is kept, in lower case, and an
underscore stands before it exactly if a word begins there.

`wordsFrom` lies between the two. It goes over a name from left to right as `snake` does, but it
keeps nothing of the result except whether there is any. The invariant that ties them together is
`Settled`: what is built ends in an underscore exactly if a separator was read last, unless nothing
is built yet.
-/

namespace ProtoSchema.Text

/-- A character in lower case if it is an upper-case letter, otherwise as it is. -/
def lowered (c : Char) : Char := if isUpper c then toLower c else c

/-- Whether an underscore stands before the character at a place of a name: something before it is
kept, and either a separator stands right before it, or it is an upper-case letter that follows a
lower-case letter or a digit, or that a lower-case letter follows. -/
def breaksAt (s : List Char) (i : Nat) : Bool :=
  (s.take i).any (fun c => !isSeparator c) &&
    (s[i - 1]?.any isSeparator ||
      s[i]?.any isUpper &&
        (s[i - 1]?.any (fun c => isLower c || isDigit c) || s[i + 1]?.any isLower))

/-- What a character at a place of a name becomes. -/
def pieceAt (s : List Char) (c : Char) (i : Nat) : List Char :=
  if isSeparator c then [] else if breaksAt s i then ['_', lowered c] else [lowered c]

/-- What a name becomes after the character `before`, if `started` says whether anything was kept
so far. -/
def wordsFrom (before : Option Char) (started : Bool) : List Char → List Char
  | [] => []
  | c :: r =>
    if isSeparator c then wordsFrom (some c) started r
    else if started && (before.any isSeparator || isUpper c && beginsWord before r) then
      '_' :: lowered c :: wordsFrom (some c) true r
    else lowered c :: wordsFrom (some c) true r

/-! ## Kept characters -/

theorem isSeparator_lowered {c : Char} (h : isSeparator c = false) :
    isSeparator (lowered c) = false := by
  unfold lowered
  split
  · exact isSeparator_toLower h
  · exact h

theorem ne_underscore_of_not_separator {c : Char} (h : isSeparator c = false) : c ≠ '_' := by
  intro hc
  rw [hc] at h
  cases h

/-! ## What is built -/

/-- The text that was built last character first, without an underscore at its end. -/
def settle (built : List Char) : List Char :=
  match built with
  | [] => []
  | c :: built => (if c == '_' then built else c :: built).reverse

theorem snake_eq_settle (s : List Char) : snake s = settle (snakeFrom none [] s) := rfl

/-- What was built after the character `before` ends in an underscore exactly if that is a
separator. -/
def Settled (before : Option Char) (built : List Char) : Prop :=
  built ≠ [] → (built.head? = some '_' ↔ before.any isSeparator = true)

theorem settle_cons {c : Char} (h : c ≠ '_') (built : List Char) :
    settle (c :: built) = built.reverse ++ [c] := by
  simp [settle, h]

theorem settle_withUnderscore (built : List Char) :
    settle (withUnderscore built) = settle built := by
  cases built with
  | nil => rfl
  | cons c r =>
    by_cases hc : c = '_'
    · simp [withUnderscore, hc]
    · simp [withUnderscore, settle, hc]

theorem isEmpty_withUnderscore (built : List Char) :
    (withUnderscore built).isEmpty = built.isEmpty := by
  cases built with
  | nil => rfl
  | cons c r =>
    by_cases hc : c = '_'
    · simp [withUnderscore, hc]
    · simp [withUnderscore, hc]

theorem settled_withUnderscore {c : Char} (hc : isSeparator c = true) (built : List Char) :
    Settled (some c) (withUnderscore built) := by
  intro hne
  cases built with
  | nil => exact absurd rfl hne
  | cons d r =>
    by_cases hd : d = '_'
    · simp [withUnderscore, hd, hc]
    · simp [withUnderscore, hd, hc]

theorem settled_cons {c : Char} (hc : isSeparator c = false) (built : List Char) :
    Settled (some c) (lowered c :: built) := by
  intro _
  have hne := ne_underscore_of_not_separator (isSeparator_lowered hc)
  simp [hne, hc]

/-- What is built when a kept character comes: the text so far, with an underscore if a word begins
or a separator was read. -/
theorem reverse_built {before : Option Char} {built : List Char} (h : Settled before built)
    (begins : Bool) :
    (if begins then withUnderscore built else built).reverse =
      settle built ++ if !built.isEmpty && (before.any isSeparator || begins) then ['_'] else [] := by
  cases built with
  | nil => cases begins <;> rfl
  | cons d r =>
    have hhead := h (List.cons_ne_nil d r)
    by_cases hd : d = '_'
    · -- a separator was read last, and its underscore is there already
      have hbefore : before.any isSeparator = true := hhead.mp (by rw [hd]; rfl)
      cases begins <;> simp [withUnderscore, settle, hd, hbefore]
    · have hbefore : before.any isSeparator = false := by
        rw [← Bool.not_eq_true, ← hhead]
        simpa using hd
      cases begins <;> simp [withUnderscore, settle, hd, hbefore]

/-- The characters that are still to come are added to the text so far, whatever it is. -/
theorem settle_snakeFrom {before : Option Char} {built : List Char} (h : Settled before built)
    (s : List Char) :
    settle (snakeFrom before built s) = settle built ++ wordsFrom before (!built.isEmpty) s := by
  induction s generalizing before built with
  | nil => simp [snakeFrom, wordsFrom]
  | cons c r ih =>
    by_cases hc : isSeparator c = true
    · rw [snakeFrom, if_pos hc, wordsFrom, if_pos hc, ih (settled_withUnderscore hc built),
        settle_withUnderscore, isEmpty_withUnderscore]
    · have hkept : isSeparator c = false := by simpa using hc
      have hstep : snakeFrom before built (c :: r) = snakeFrom (some c)
          (lowered c :: if isUpper c && beginsWord before r then withUnderscore built else built)
          r := by
        rw [snakeFrom, if_neg hc]
        by_cases hu : isUpper c = true
        · simp [lowered, hu]
        · simp [lowered, hu]
      have hne := ne_underscore_of_not_separator (isSeparator_lowered hkept)
      rw [hstep, ih (settled_cons hkept _), settle_cons hne, reverse_built h, wordsFrom, if_neg hc]
      split
      · simp
      · simp

theorem snake_eq_wordsFrom (s : List Char) : snake s = wordsFrom none false s := by
  have hsettled : Settled none [] := fun h => absurd rfl h
  rw [snake_eq_settle, settle_snakeFrom hsettled]
  rfl

/-! ## Place by place -/

/-- A break at a place looks at what was kept before it, at the character before it and at the next
one. -/
theorem breaksAt_length (done : List Char) (c : Char) (r : List Char) :
    breaksAt (done ++ c :: r) done.length =
      (done.any (fun c => !isSeparator c) &&
        (done.getLast?.any isSeparator || isUpper c && beginsWord done.getLast? r)) := by
  have hhere : (done ++ c :: r)[done.length]? = some c := by simp
  have hnext : (done ++ c :: r)[done.length + 1]? = r.head? := by
    rw [List.getElem?_append_right (by omega)]
    simp [List.head?_eq_getElem?]
  have htake : (done ++ c :: r).take done.length = done := List.take_left
  by_cases hdone : done = []
  · -- nothing is kept before the first character
    simp [breaksAt, hdone]
  · have hlength : 0 < done.length := List.length_pos_of_ne_nil hdone
    have hlast : (done ++ c :: r)[done.length - 1]? = done.getLast? := by
      rw [List.getElem?_append_left (by omega), List.getLast?_eq_getElem?]
    rw [breaksAt, htake, hhere, hnext, hlast]
    rfl

/-- What follows a part of a name that was gone through becomes its pieces. -/
theorem wordsFrom_eq_pieces (done rest : List Char) :
    wordsFrom done.getLast? (done.any fun c => !isSeparator c) rest =
      (rest.zipIdx done.length).flatMap fun x => pieceAt (done ++ rest) x.1 x.2 := by
  induction rest generalizing done with
  | nil => rfl
  | cons c r ih =>
    have hnext := ih (done ++ [c])
    rw [List.getLast?_concat, List.any_append, List.length_append] at hnext
    simp only [List.any_cons, List.any_nil, Bool.or_false, List.length_singleton,
      List.append_assoc, List.singleton_append] at hnext
    rw [List.zipIdx_cons, List.flatMap_cons, ← hnext, wordsFrom, pieceAt, breaksAt_length]
    by_cases hc : isSeparator c = true
    · simp [hc]
    · have hkept : isSeparator c = false := by simpa using hc
      simp only [hkept, Bool.not_false, Bool.or_true, Bool.false_eq_true, if_false]
      split
      · rfl
      · rfl

/-! ## Where underscores stand -/

theorem mem_wordsFrom {before : Option Char} {started : Bool} {s : List Char} {c : Char}
    (h : c ∈ wordsFrom before started s) : isSeparator c = true → c = '_' := by
  induction s generalizing before started with
  | nil => cases h
  | cons d r ih =>
    rw [wordsFrom] at h
    split at h
    · exact ih h
    · rename_i hd
      have hlow : isSeparator (lowered d) = false := isSeparator_lowered (by simpa using hd)
      intro hc
      split at h
      · rcases List.mem_cons.mp h with rfl | h
        · rfl
        · rcases List.mem_cons.mp h with rfl | h
          · rw [hlow] at hc
            cases hc
          · exact ih h hc
      · rcases List.mem_cons.mp h with rfl | h
        · rw [hlow] at hc
          cases hc
        · exact ih h hc

theorem head_wordsFrom {before : Option Char} {s : List Char} {c : Char}
    (h : c ∈ (wordsFrom before false s).head?) : isSeparator c = false := by
  induction s generalizing before with
  | nil => cases h
  | cons d r ih =>
    rw [wordsFrom] at h
    split at h
    · exact ih h
    · rename_i hd
      rw [Bool.false_and, if_neg Bool.false_ne_true] at h
      cases h
      exact isSeparator_lowered (by simpa using hd)

theorem getLast_wordsFrom {before : Option Char} {started : Bool} {s : List Char} {c : Char}
    (h : c ∈ (wordsFrom before started s).getLast?) : isSeparator c = false := by
  induction s generalizing before started with
  | nil => cases h
  | cons d r ih =>
    rw [wordsFrom] at h
    split at h
    · exact ih h
    · rename_i hd
      have hlow : isSeparator (lowered d) = false := isSeparator_lowered (by simpa using hd)
      have hend : c ∈ (lowered d :: wordsFrom (some d) true r).getLast? := by
        split at h
        · rwa [List.getLast?_cons_cons] at h
        · exact h
      -- the last character is that of the rest, if there is any
      cases hrest : wordsFrom (some d) true r with
      | nil =>
        rw [hrest] at hend
        cases hend
        exact hlow
      | cons e t =>
        rw [hrest, List.getLast?_cons_cons, ← hrest] at hend
        exact ih hend

theorem isChain_wordsFrom (before : Option Char) (started : Bool) (s : List Char) :
    (wordsFrom before started s).IsChain fun c d => c = '_' → d ≠ '_' := by
  induction s generalizing before started with
  | nil => exact List.isChain_nil
  | cons c r ih =>
    rw [wordsFrom]
    split
    · exact ih (some c) started
    · rename_i hc
      have hne : lowered c ≠ '_' :=
        ne_underscore_of_not_separator (isSeparator_lowered (by simpa using hc))
      have hchain : (lowered c :: wordsFrom (some c) true r).IsChain
          fun c d => c = '_' → d ≠ '_' := by
        rw [List.isChain_cons]
        exact ⟨fun _ _ h => absurd h hne, ih (some c) true⟩
      split
      · rw [List.isChain_cons_cons]
        exact ⟨fun _ => hne, hchain⟩
      · exact hchain

/-- A name in snake case is made of its characters that are no separators, each in lower case and
with an underscore before it exactly where a word begins and another one came before. So it neither
starts nor ends with an underscore, it has no two of them in a row, and it has no other separator. -/
theorem toSnake_eq_pieces (name : String) :
    let s := name.toList
    let result := (toSnake name).toList
    result = (s.zipIdx.flatMap fun x => pieceAt s x.1 x.2) ∧
      result.head? ≠ some '_' ∧ result.getLast? ≠ some '_' ∧ ¬ ['_', '_'] <:+: result ∧
      ∀ c ∈ result, isSeparator c = true → c = '_' := by
  intro s result
  have hresult : result = wordsFrom none false s := by
    rw [← snake_eq_wordsFrom]
    exact String.toList_ofList
  rw [hresult]
  refine ⟨wordsFrom_eq_pieces [] s, ?_, ?_, ?_, fun c hc => mem_wordsFrom hc⟩
  · intro hhead
    exact absurd (head_wordsFrom hhead) (by decide)
  · intro hlast
    exact absurd (getLast_wordsFrom hlast) (by decide)
  · rintro ⟨before, after, hsplit⟩
    have hchain := isChain_wordsFrom none false s
    rw [← hsplit, List.isChain_append, List.isChain_append, List.isChain_cons_cons] at hchain
    exact hchain.1.2.1.1 rfl rfl

example : toSnake "--parseHTTPRequest__2Go." = "parse_http_request_2_go" := by decide +kernel

end ProtoSchema.Text
