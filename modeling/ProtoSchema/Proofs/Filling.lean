import Mathlib.Data.List.Chain
import Mathlib.Data.List.Forall2
import ProtoSchema.Proofs.Comments
import ProtoSchema.Proofs.Trimming

/-!
# Filled comments

A comment is its text filled into lines: each paragraph by itself, its words in order, and a line is
ended only where the next word does not fit any more. This is said here without the functions that
do it. `HasWords` and `HasParagraphs` say what the words and the paragraphs of a text are, `Fills`
says which rows of words are filled, and `FilledAs` which lines a paragraph becomes. Exactly one
text has this form, and it is the comment (`comment_eq_iff_filled`).

The line that is being filled is kept as text, with a counter beside it, which always is its length
(`fill_length_cons`). The line is always the text of a row of words that fits (`exists_fills`); a row
that could take one word more is never filled, so there is no choice (`fill_of_fills`).
-/

namespace ProtoSchema.Text

/-! ## Words -/

/-- The words of a text: runs of characters that are no white space, each as long as it can be. -/
inductive HasWords : List Char → List (List Char) → Prop
  | blank {s : List Char} (hs : Blank s) : HasWords s []
  | word {gap w rest : List Char} {ws : List (List Char)} (hgap : Blank gap) (hne : w ≠ [])
      (hw : ∀ c ∈ w, isSpace c = false) (hends : ∀ c ∈ rest.head?, isSpace c = true)
      (hrest : HasWords rest ws) : HasWords (gap ++ w ++ rest) (w :: ws)

theorem words_append_space {c : Char} (hc : isSpace c = true) (s t : List Char) :
    words (s ++ c :: t) = words s ++ words t := by
  unfold words
  rw [cut_append_cons hc, List.filter_append]

theorem words_cons_space {c : Char} (hc : isSpace c = true) (s : List Char) :
    words (c :: s) = words s :=
  words_append_space hc [] s

theorem words_gap_append {gap : List Char} (hgap : Blank gap) (s : List Char) :
    words (gap ++ s) = words s := by
  induction gap with
  | nil => rfl
  | cons c gap ih =>
    rw [List.cons_append, words_cons_space (hgap c (by simp))]
    exact ih fun d hd => hgap d (by simp [hd])

theorem words_of_unspaced {w : List Char} (hne : w ≠ []) (hw : ∀ c ∈ w, isSpace c = false) :
    words w = [w] := by
  rw [words, cut_eq_singleton hw, List.filter_singleton]
  simp [hne]

theorem HasWords.words_eq {s : List Char} {ws : List (List Char)} (h : HasWords s ws) :
    words s = ws := by
  induction h with
  | @blank s hs =>
    have hgap := words_gap_append hs []
    rwa [List.append_nil] at hgap
  | @word gap w rest ws hgap hne hw hends hrest ih =>
    rw [List.append_assoc, words_gap_append hgap]
    cases rest with
    | nil =>
      rw [List.append_nil, words_of_unspaced hne hw, ← ih]
      rfl
    | cons c r =>
      have hc : isSpace c = true := hends c rfl
      rw [words_append_space hc, words_of_unspaced hne hw, ← ih, words_cons_space hc]
      rfl

theorem blank_cons {v : List Char} {c : Char} (hc : isSpace c = true) (hv : Blank v) :
    Blank (c :: v) := by
  intro d hd
  rcases List.mem_cons.mp hd with rfl | hd
  · exact hc
  · exact hv d hd

theorem HasWords.cons_space {c : Char} (hc : isSpace c = true) {s : List Char}
    {ws : List (List Char)} (h : HasWords s ws) : HasWords (c :: s) ws := by
  cases h with
  | blank hs => exact .blank (blank_cons hc hs)
  | word hgap hne hw hends hrest => exact .word (blank_cons hc hgap) hne hw hends hrest

theorem exists_hasWords (s : List Char) : ∃ ws, HasWords s ws := by
  induction s with
  | nil => exact ⟨[], .blank (by intro c hc; cases hc)⟩
  | cons c r ih =>
    obtain ⟨ws, h⟩ := ih
    by_cases hc : isSpace c = true
    · exact ⟨ws, h.cons_space hc⟩
    · have hc' : isSpace c = false := by simpa using hc
      by_cases hr : ∀ d ∈ r.head?, isSpace d = true
      · -- `c` is a word by itself
        have hword : HasWords ([] ++ [c] ++ r) ([c] :: ws) :=
          .word (by intro d hd; cases hd) (by simp) (by simpa using hc') hr h
        exact ⟨[c] :: ws, hword⟩
      · -- the text after `c` starts with a word, and `c` belongs to it
        cases h with
        | blank hs =>
          refine absurd (fun d hd => hs d ?_) hr
          exact List.mem_of_mem_head? hd
        | @word gap w rest vs hgap hne hw hends hrest =>
          cases gap with
          | cons d gap =>
            refine absurd (fun e he => ?_) hr
            cases he
            exact hgap d (by simp)
          | nil =>
            have hlonger : ∀ d ∈ c :: w, isSpace d = false := by
              intro d hd
              rcases List.mem_cons.mp hd with rfl | hd
              · exact hc'
              · exact hw d hd
            have hword : HasWords ([] ++ (c :: w) ++ rest) ((c :: w) :: vs) :=
              .word hgap (by simp) hlonger hends hrest
            exact ⟨(c :: w) :: vs, hword⟩

theorem words_eq_iff {s : List Char} {ws : List (List Char)} : words s = ws ↔ HasWords s ws := by
  constructor
  · intro h
    obtain ⟨vs, hvs⟩ := exists_hasWords s
    rwa [← h, hvs.words_eq]
  · exact HasWords.words_eq

/-! ## Lines and paragraphs -/

/-- The text consists of these lines, each ended by a line break. -/
structure HasLines (s : List Char) (ls : List (List Char)) : Prop where
  eq : s = ls.flatMap (· ++ ['\n'])
  unbroken : ∀ l ∈ ls, '\n' ∉ l

/-- The paragraphs of a text: what stands between line breaks, once white space is taken off both
ends of the text. -/
structure HasParagraphs (text : List Char) (ps : List (List Char)) : Prop where
  eq : ∃ v w, Blank v ∧ Blank w ∧ text = v ++ join ['\n'] ps ++ w
  trimmed : Trimmed (join ['\n'] ps)
  nonempty : ps ≠ []
  unbroken : ∀ p ∈ ps, '\n' ∉ p

theorem join_cons_cons (c : Char) (p q : List Char) (qs : List (List Char)) :
    join [c] (p :: q :: qs) = p ++ c :: join [c] (q :: qs) := by
  simp [join]

/-- The pieces after the first, each with the separator before it. -/
theorem join_cons (c : Char) (p : List Char) (ps : List (List Char)) :
    join [c] (p :: ps) = p ++ ps.flatMap (c :: ·) := by
  induction ps generalizing p with
  | nil => simp [join]
  | cons q qs ih => rw [join_cons_cons, ih, List.flatMap_cons, List.cons_append]

theorem join_append {c : Char} {ps qs : List (List Char)} (hps : ps ≠ []) (hqs : qs ≠ []) :
    join [c] (ps ++ qs) = join [c] ps ++ c :: join [c] qs := by
  obtain ⟨q, more, rfl⟩ := List.exists_cons_of_ne_nil hqs
  induction ps with
  | nil => exact absurd rfl hps
  | cons p ps ih =>
    cases ps with
    | nil => exact join_cons_cons c p q more
    | cons r ps =>
      rw [List.cons_append, List.cons_append, join_cons_cons, join_cons_cons, List.append_assoc,
        List.cons_append, ← ih (by simp), List.cons_append]

theorem lines_join {ps : List (List Char)} (hne : ps ≠ []) (h : ∀ p ∈ ps, '\n' ∉ p) :
    lines (join ['\n'] ps) = ps := by
  have hpiece : ∀ p ∈ ps, cut (· == '\n') p = [p] := by
    intro p hp
    refine cut_eq_singleton fun c hc => ?_
    rw [beq_eq_false_iff_ne]
    rintro rfl
    exact h p hp hc
  unfold lines
  induction ps with
  | nil => exact absurd rfl hne
  | cons p ps ih =>
    cases ps with
    | nil => exact hpiece p (by simp)
    | cons q qs =>
      rw [join_cons_cons, cut_append_cons (by decide), hpiece p (by simp),
        ih (by simp) (fun r hr => h r (by simp [hr])) fun r hr => hpiece r (by simp [hr])]
      rfl

theorem lines_trim_eq_iff {text : List Char} {ps : List (List Char)} :
    lines (trim text) = ps ↔ HasParagraphs text ps := by
  constructor
  · rintro rfl
    have hjoin : join ['\n'] (lines (trim text)) = trim text := join_cut '\n' (trim text)
    refine ⟨?_, ?_, cut_ne_nil _ _, ?_⟩
    · rw [hjoin]
      exact exists_trim text
    · rw [hjoin]
      exact trimmed_trim text
    · intro p hp hc
      exact absurd (mem_of_mem_cut hp hc).2 (by decide)
  · rintro ⟨⟨v, w, hv, hw, rfl⟩, htrimmed, hne, hunbroken⟩
    rw [trim_blank_append hv hw, htrimmed.trim_eq, lines_join hne hunbroken]

end ProtoSchema.Text

namespace ProtoSchema.Proto

open Text

/-! ## Rows of words -/

/-- A row of words that fits: it has at most eighty characters, or it is a single word. -/
def Fits (row : List (List Char)) : Prop := (join [' '] row).length ≤ 80 ∨ row.length = 1

/-- Words filled into rows: all of them in order, in rows that fit, and no row could take the first
word of the next one. -/
structure Fills (rows : List (List (List Char))) (ws : List (List Char)) : Prop where
  words : rows.flatten = ws
  nonempty : ∀ row ∈ rows, row ≠ []
  fits : ∀ row ∈ rows, Fits row
  full : rows.IsChain fun row next =>
    ∀ w ∈ next.head?, 80 < (join [' '] row).length + 1 + w.length

/-- The lines of a paragraph: its words filled into rows after the lead, or if it has none, the lead
without the spaces at its end. -/
inductive FilledAs (lead p : List Char) : List (List Char) → Prop
  | blank {bare : List Char} {n : Nat} (hwords : HasWords p [])
      (hlead : lead = bare ++ List.replicate n ' ') (hbare : bare.getLast? ≠ some ' ') :
      FilledAs lead p [bare]
  | filled {ws : List (List Char)} {rows : List (List (List Char))} (hwords : HasWords p ws)
      (hne : ws ≠ []) (hfills : Fills rows ws) :
      FilledAs lead p (rows.map fun row => lead ++ join [' '] row)

theorem Fills.exists_first {rows : List (List (List Char))} {w : List Char}
    {ws : List (List Char)} (h : Fills rows (w :: ws)) :
    ∃ more rest, rows = (w :: more) :: rest ∧ more ++ rest.flatten = ws := by
  obtain ⟨hwords, hnonempty, -, -⟩ := h
  cases rows with
  | nil => cases hwords
  | cons row rest =>
    cases row with
    | nil => exact absurd rfl (hnonempty [] (by simp))
    | cons v more =>
      rw [List.flatten_cons, List.cons_append, List.cons.injEq] at hwords
      obtain ⟨rfl, hrest⟩ := hwords
      exact ⟨more, rest, rfl, hrest⟩

/-- A row stands before others if their first word did not fit. -/
theorem Fills.cons {rows : List (List (List Char))} {w : List Char} {ws row : List (List Char)}
    (h : Fills rows (w :: ws)) (hne : row ≠ []) (hfits : Fits row)
    (hfull : 80 < (join [' '] row).length + 1 + w.length) :
    Fills (row :: rows) (row ++ w :: ws) := by
  obtain ⟨more, rest, rfl, -⟩ := h.exists_first
  refine ⟨?_, ?_, ?_, ?_⟩
  · rw [List.flatten_cons, h.words]
  · intro r hr
    rcases List.mem_cons.mp hr with rfl | hr
    · exact hne
    · exact h.nonempty r hr
  · intro r hr
    rcases List.mem_cons.mp hr with rfl | hr
    · exact hfits
    · exact h.fits r hr
  · rw [List.isChain_cons_cons]
    refine ⟨fun v hv => ?_, h.full⟩
    cases hv
    exact hfull

/-- A counter that is the length of the line is the length of the line after the next word too. -/
theorem fill_length_cons (line w : List Char) (ws : List (List Char)) :
    fill line line.length (w :: ws) =
      if line.length + 1 + w.length > wrapWidth then line :: fill w w.length ws
      else fill (line ++ ' ' :: w) (line ++ ' ' :: w).length ws := by
  have hlength : (line ++ ' ' :: w).length = line.length + 1 + w.length := by
    rw [List.length_append, List.length_cons]
    omega
  rw [fill, hlength]

/-- Filling goes on from a row that fits, and gives rows that are filled. -/
theorem exists_fills (ws row : List (List Char)) (hne : row ≠ []) (hfits : Fits row) :
    ∃ rows, Fills rows (row ++ ws) ∧
      fill (join [' '] row) (join [' '] row).length ws = rows.map (join [' ']) := by
  induction ws generalizing row with
  | nil =>
    refine ⟨[row], ⟨by simp, ?_, ?_, List.isChain_singleton row⟩, rfl⟩
    · simpa using hne
    · simpa using hfits
  | cons w ws ih =>
    rw [fill_length_cons]
    by_cases hfull : (join [' '] row).length + 1 + w.length > wrapWidth
    · -- the row is done, and `w` starts the next one, whatever its length
      obtain ⟨rows, hfills, heq⟩ := ih [w] (by simp) (.inr rfl)
      rw [if_pos hfull]
      exact ⟨row :: rows, hfills.cons hne hfits hfull, congrArg (join [' '] row :: ·) heq⟩
    · have hjoin : join [' '] (row ++ [w]) = join [' '] row ++ ' ' :: w :=
        join_append hne (by simp)
      have hroom : Fits (row ++ [w]) := by
        left
        rw [hjoin, List.length_append, List.length_cons]
        unfold wrapWidth at hfull
        omega
      obtain ⟨rows, hfills, heq⟩ := ih (row ++ [w]) (by simp) hroom
      rw [if_neg hfull, ← hjoin]
      exact ⟨rows, by simpa using hfills, heq⟩

/-- Rows that are filled are the ones that filling gives. In the induction `row` is what stands on
the first row so far, and `more` is what is still to come on it. -/
theorem fill_of_fills (row : List (List Char)) {ws more : List (List Char)}
    {rest : List (List (List Char))} (hne : row ≠ [])
    (h : Fills ((row ++ more) :: rest) (row ++ ws)) :
    fill (join [' '] row) (join [' '] row).length ws =
      ((row ++ more) :: rest).map (join [' ']) := by
  have hwords : more ++ rest.flatten = ws := by
    have hflatten := h.words
    rw [List.flatten_cons, List.append_assoc] at hflatten
    exact List.append_cancel_left hflatten
  induction ws generalizing row more rest with
  | nil =>
    obtain ⟨rfl, hrest⟩ := List.append_eq_nil_iff.mp hwords
    have hnil : rest = [] := by
      rw [List.eq_nil_iff_forall_not_mem]
      intro r hr
      exact h.nonempty r (by simp [hr]) (List.flatten_eq_nil_iff.mp hrest r hr)
    rw [hnil, List.append_nil]
    rfl
  | cons w ws ih =>
    rw [fill_length_cons]
    cases more with
    | nil =>
      -- the first row ends here, so `w` did not fit
      have htail : Fills rest (w :: ws) :=
        ⟨hwords, fun r hr => h.nonempty r (by simp [hr]), fun r hr => h.fits r (by simp [hr]),
          h.full.tail⟩
      obtain ⟨more, rows, rfl, hrows⟩ := htail.exists_first
      have hfull : wrapWidth < (join [' '] row).length + 1 + w.length := by
        have hchain := (List.isChain_cons_cons.mp h.full).1 w rfl
        rwa [List.append_nil] at hchain
      rw [if_pos hfull, List.append_nil, List.map_cons]
      exact congrArg (join [' '] row :: ·) (ih [w] (by simp) htail hrows)
    | cons v more =>
      rw [List.cons_append, List.cons.injEq] at hwords
      obtain ⟨rfl, hrest⟩ := hwords
      -- there are two words on the row at least, so all of it has room
      have hroom : (join [' '] (row ++ v :: more)).length ≤ 80 := by
        rcases h.fits _ List.mem_cons_self with hlength | hsingle
        · exact hlength
        · have := List.length_pos_iff.mpr hne
          rw [List.length_append, List.length_cons] at hsingle
          omega
      have hfits : ¬ (join [' '] row).length + 1 + v.length > wrapWidth := by
        have hlength : v.length ≤ (join [' '] (v :: more)).length := by
          cases more with
          | nil => exact Nat.le_refl _
          | cons u more => simp [join]
        rw [join_append hne (by simp), List.length_append, List.length_cons] at hroom
        unfold wrapWidth
        omega
      have hjoin : join [' '] (row ++ [v]) = join [' '] row ++ ' ' :: v :=
        join_append hne (by simp)
      have hmove : row ++ v :: more = row ++ [v] ++ more := by simp
      rw [if_neg hfits, ← hjoin, hmove]
      refine ih (row ++ [v]) (by simp) ?_ hrest
      simpa using h

theorem fill_eq_of_fills {rows : List (List (List Char))} {w : List Char} {ws : List (List Char)}
    (h : Fills rows (w :: ws)) : fill w w.length ws = rows.map (join [' ']) := by
  obtain ⟨more, rest, rfl, -⟩ := h.exists_first
  exact fill_of_fills [w] (by simp) h

/-! ## Paragraphs -/

theorem bareLead_eq_iff {lead bare : List Char} :
    bareLead lead = bare ↔
      (∃ n, lead = bare ++ List.replicate n ' ') ∧ bare.getLast? ≠ some ' ' := by
  constructor
  · rintro rfl
    constructor
    · refine ⟨(lead.rtakeWhile (· == ' ')).length, ?_⟩
      have hspaces : lead.rtakeWhile (· == ' ') =
          List.replicate (lead.rtakeWhile (· == ' ')).length ' ' :=
        List.eq_replicate_of_mem fun c hc =>
          beq_iff_eq.mp (List.mem_rtakeWhile_imp (p := (· == ' ')) hc)
      rw [← hspaces]
      exact (List.rdropWhile_append_rtakeWhile ..).symm
    · intro hlast
      have hnot := List.head?_dropWhile_not (· == ' ') lead.reverse
      rw [bareLead, trimEndWhile, List.getLast?_reverse] at hlast
      rw [hlast] at hnot
      cases hnot
  · rintro ⟨⟨n, rfl⟩, hlast⟩
    rw [bareLead, trimEndWhile_append]
    · rw [trimEndWhile_eq_rdropWhile, List.rdropWhile_eq_self_iff]
      intro hne hspace
      rw [List.getLast?_eq_some_getLast hne] at hlast
      exact hlast (congrArg some (beq_iff_eq.mp hspace))
    · intro c hc
      rw [List.eq_of_mem_replicate hc]
      rfl

theorem paragraphLines_eq_iff {lead p : List Char} {g : List (List Char)} :
    paragraphLines lead p = g ↔ FilledAs lead p g := by
  constructor
  · rintro rfl
    unfold paragraphLines
    split
    · rename_i hwords
      obtain ⟨⟨n, hlead⟩, hbare⟩ := bareLead_eq_iff.mp (Eq.refl (bareLead lead))
      exact .blank (words_eq_iff.mp hwords) hlead hbare
    · rename_i w ws hwords
      obtain ⟨rows, hfills, heq⟩ := exists_fills ws [w] (by simp) (.inr rfl)
      have hfill : fill w w.length ws = rows.map (join [' ']) := heq
      rw [hfill, List.map_map]
      exact .filled (words_eq_iff.mp hwords) (by simp) hfills
  · intro h
    unfold paragraphLines
    cases h with
    | blank hwords hlead hbare =>
      rw [hwords.words_eq]
      exact congrArg ([·]) (bareLead_eq_iff.mpr ⟨⟨_, hlead⟩, hbare⟩)
    | @filled ws rows hwords hne hfills =>
      rw [hwords.words_eq]
      cases ws with
      | nil => exact absurd rfl hne
      | cons w ws =>
        show (fill w w.length ws).map (lead ++ ·) = _
        rw [fill_eq_of_fills hfills, List.map_map]
        rfl

theorem FilledAs.ne_nil {lead p : List Char} {g : List (List Char)} (h : FilledAs lead p g) :
    g ≠ [] := by
  cases h with
  | blank hwords hlead hbare => simp
  | filled hwords hne hfills =>
    intro hnil
    rw [List.map_eq_nil_iff] at hnil
    subst hnil
    exact hne hfills.words.symm

/-! ## Comments -/

theorem trim_eq_nil_iff {text : List Char} : trim text = [] ↔ Blank text := by
  constructor
  · intro h
    obtain ⟨v, w, hv, hw, heq⟩ := exists_trim text
    rw [h, List.append_nil] at heq
    rw [heq]
    intro c hc
    rcases List.mem_append.mp hc with hc | hc
    · exact hv c hc
    · exact hw c hc
  · intro h
    have htrim := trim_blank_append h (w := []) (by intro c hc; cases hc) []
    simp only [List.append_nil] at htrim
    exact htrim

theorem commentLines_of_blank {text : List Char} (h : Blank text) (lead : List Char) :
    commentLines lead text = [] := by
  unfold commentLines
  rw [trim_eq_nil_iff.mpr h]

theorem commentLines_of_not_blank {text : List Char} (h : ¬ Blank text) (lead : List Char) :
    commentLines lead text = ((lines (trim text)).map (paragraphLines lead)).flatten := by
  unfold commentLines
  split
  · rename_i hnil
    exact absurd (trim_eq_nil_iff.mp hnil) h
  · exact List.flatMap_def ..

theorem commentLines_eq_nil_iff {lead text : List Char} :
    commentLines lead text = [] ↔ Blank text := by
  constructor
  · intro h
    by_contra hblank
    rw [commentLines_of_not_blank hblank, List.flatten_eq_nil_iff] at h
    obtain ⟨p, ps, hps⟩ := List.exists_cons_of_ne_nil (cut_ne_nil (· == '\n') (trim text))
    have hp : p ∈ lines (trim text) := by
      rw [lines, hps]
      exact List.mem_cons_self
    have hfilled : FilledAs lead p (paragraphLines lead p) := paragraphLines_eq_iff.mp rfl
    exact hfilled.ne_nil (h _ (List.mem_map_of_mem hp))
  · intro h
    exact commentLines_of_blank h lead

/-- A lead without line breaks brings none into the lines of a comment. -/
theorem unbroken_of_mem_commentLines {lead text l : List Char} (hlead : '\n' ∉ lead)
    (h : l ∈ commentLines lead text) : '\n' ∉ l := by
  obtain ⟨t, rfl, ht⟩ := mem_commentLines h
  rw [List.mem_append, not_or]
  constructor
  · intro hc
    exact hlead ((List.rdropWhile_prefix (· == ' ') lead).subset hc)
  · intro hc
    rcases ht '\n' hc with hspace | ⟨-, hspace⟩
    · exact absurd hspace (by decide)
    · exact absurd hspace (by decide)

theorem toList_comment (lead text : String) :
    (comment lead text).toList =
      (commentLines lead.toList text.toList).flatMap (· ++ ['\n']) := by
  have hlines (ls : List (List Char)) :
      (String.join (ls.map fun l => String.ofList l ++ "\n")).toList =
        ls.flatMap (· ++ ['\n']) := by
    induction ls with
    | nil => rfl
    | cons l ls ih => simp [String.join_cons, ih]
  exact hlines _

/-- The paragraphs of a text one by one: their lines are the lines of the comment. -/
theorem forall₂_filledAs_iff {lead : List Char} {ps : List (List Char)}
    {groups : List (List (List Char))} :
    List.Forall₂ (FilledAs lead) ps groups ↔ groups = ps.map (paragraphLines lead) := by
  have hiff : List.Forall₂ (FilledAs lead) ps groups ↔
      List.Forall₂ (fun p g => paragraphLines lead p = g) ps groups := by
    simp only [paragraphLines_eq_iff]
  rw [hiff, ← List.forall₂_map_left_iff (R := Eq), List.forall₂_eq_eq_eq, eq_comm]

/-- A comment is the greedy fill of each paragraph, and nothing else is. It is empty if the text is
nothing but white space. Otherwise it consists of lines in groups, one for each paragraph: the lead
without the spaces at its end for a paragraph without words, and for any other its words filled into
rows, each after the lead and with single spaces in between. -/
theorem comment_eq_iff_filled {lead : String} (hlead : '\n' ∉ lead.toList) (text : String) :
    (comment lead text = "" ↔ Blank text.toList) ∧
      (¬ Blank text.toList → ∀ out, comment lead text = out ↔
        ∃ ps groups, HasParagraphs text.toList ps ∧
          List.Forall₂ (FilledAs lead.toList) ps groups ∧ (∀ g ∈ groups, g ≠ []) ∧
            HasLines out.toList groups.flatten) := by
  refine ⟨?_, fun hblank out => ⟨?_, ?_⟩⟩
  · have hnil : commentLines lead.toList text.toList = [] ↔ Blank text.toList :=
      commentLines_eq_nil_iff
    rw [← hnil, ← String.toList_inj, toList_comment]
    cases commentLines lead.toList text.toList <;> simp
  · rintro rfl
    have hlines := commentLines_of_not_blank hblank lead.toList
    refine ⟨_, _, lines_trim_eq_iff.mp rfl, forall₂_filledAs_iff.mpr rfl, ?_, ?_, ?_⟩
    · intro g hg
      obtain ⟨p, -, rfl⟩ := List.mem_map.mp hg
      exact (paragraphLines_eq_iff.mp rfl).ne_nil
    · rw [toList_comment, hlines]
    · intro l hl
      rw [← hlines] at hl
      exact unbroken_of_mem_commentLines hlead hl
  · rintro ⟨ps, groups, hps, hgroups, -, hlines⟩
    rw [← String.toList_inj, toList_comment, hlines.eq, commentLines_of_not_blank hblank,
      lines_trim_eq_iff.mpr hps, forall₂_filledAs_iff.mp hgroups]

/-- A line of exactly eighty characters, a blank paragraph, and a word that is too long. -/
theorem comment_eq_iff_filled_eighty :
    let word (c : Char) (n : Nat) : String := String.ofList (List.replicate n c)
    let text := " " ++ word 'a' 40 ++ "\t" ++ word 'b' 39 ++ " c\n \n" ++ word 'd' 81 ++ " e\n"
    let out := "  // " ++ word 'a' 40 ++ " " ++ word 'b' 39 ++ "\n  // c\n  //\n  // " ++
      word 'd' 81 ++ "\n  // e\n"
    '\n' ∉ "  // ".toList ∧ ¬ Blank text.toList ∧ comment "  // " text ≠ "" ∧
      ∃ ps groups, HasParagraphs text.toList ps ∧
        List.Forall₂ (FilledAs "  // ".toList) ps groups ∧ (∀ g ∈ groups, g ≠ []) ∧
          HasLines out.toList groups.flatten := by
  intro word text out
  have hlead : '\n' ∉ "  // ".toList := by decide
  have hblank : ¬ Blank text.toList := by
    intro h
    exact absurd (h 'c' (by simp [text])) (by decide)
  have hout : comment "  // " text = out := by
    rw [← String.toList_inj, toList_comment]
    simp only [text, out, word, String.toList_append, String.toList_ofList]
    decide +kernel
  obtain ⟨hempty, hfilled⟩ := comment_eq_iff_filled hlead text
  exact ⟨hlead, hblank, fun h => hblank (hempty.mp h), (hfilled hblank out).mp hout⟩

end ProtoSchema.Proto
