import ProtoSchema.Proofs.Filling

/-!
# Comments that are filled again

A comment can be taken off its lead and read as a text. Where a line was ended because it was full,
the text now has a paragraph more; but each of these paragraphs is a line that fits, so that filling
it gives this line again, and the comment does not change (`comment_uncomment`).

`Settles` says what becomes of a paragraph, whatever the lead is: lines of which each is its own
filling (`settles_paragraphLines`). A text has the lines of its paragraphs. As the first and the last
of them are not blank, nothing is trimmed when they are read as a text
(`hasParagraphs_join_commentLines`).
-/

namespace ProtoSchema.Text

/-! ## Words of pieces -/

theorem words_eq_nil_iff {s : List Char} : words s = [] ↔ Blank s := by
  rw [words_eq_iff]
  constructor
  · intro h
    cases h with
    | blank hs => exact hs
  · exact HasWords.blank

theorem words_append_gap {gap : List Char} (hgap : Blank gap) (s : List Char) :
    words (s ++ gap) = words s := by
  cases gap with
  | nil => rw [List.append_nil]
  | cons c gap =>
    have hrest : words gap = [] :=
      words_eq_nil_iff.mpr fun d hd => hgap d (List.mem_cons_of_mem c hd)
    rw [words_append_space (hgap c List.mem_cons_self), hrest, List.append_nil]

theorem words_trim (s : List Char) : words (trim s) = words s := by
  obtain ⟨v, w, hv, hw, heq⟩ := exists_trim s
  conv_rhs => rw [heq, words_append_gap hw, words_gap_append hv]

theorem words_join {c : Char} (hc : isSpace c = true) (ps : List (List Char)) :
    words (join [c] ps) = ps.flatMap words := by
  induction ps with
  | nil => rfl
  | cons p ps ih =>
    cases ps with
    | nil => simp [join]
    | cons q qs =>
      rw [join_cons_cons, words_append_space hc, ih]
      rfl

theorem words_lines (s : List Char) : (lines s).flatMap words = words s := by
  rw [← words_join (by decide : isSpace '\n' = true), lines, join_cut]

/-- A word: it is not empty and has no white space. -/
structure IsWord (w : List Char) : Prop where
  nonempty : w ≠ []
  unspaced : ∀ c ∈ w, isSpace c = false

theorem isWord_of_mem_words {s w : List Char} (h : w ∈ words s) : IsWord w where
  nonempty := by simpa using (List.mem_filter.mp h).2
  unspaced := fun _ hc => (mem_of_mem_words h hc).2

/-- Words with spaces between them are read as these words. -/
theorem words_row {row : List (List Char)} (h : ∀ w ∈ row, IsWord w) :
    words (join [' '] row) = row := by
  rw [words_join (by decide)]
  induction row with
  | nil => rfl
  | cons w row ih =>
    have hw : IsWord w := h w List.mem_cons_self
    rw [List.flatMap_cons, words_of_unspaced hw.nonempty hw.unspaced,
      ih fun v hv => h v (List.mem_cons_of_mem w hv)]
    rfl

/-! ## Ends of pieces -/

theorem Trimmed.eq_nil_of_blank_start {v s : List Char} (h : Trimmed (v ++ s)) (hv : Blank v) :
    v = [] := by
  cases v with
  | nil => rfl
  | cons c v =>
    have hnot : isSpace c = false := h.start c rfl
    rw [hv c List.mem_cons_self] at hnot
    cases hnot

theorem Trimmed.eq_nil_of_blank_stop {s w : List Char} (h : Trimmed (s ++ w)) (hw : Blank w) :
    w = [] := by
  rcases List.eq_nil_or_concat w with rfl | ⟨w, c, rfl⟩
  · rfl
  · rw [List.concat_eq_append] at h hw
    have hnot : isSpace c = false := h.stop c (by simp)
    rw [hw c (by simp)] at hnot
    cases hnot

theorem blank_concat {v : List Char} {c : Char} (hv : Blank v) (hc : isSpace c = true) :
    Blank (v ++ [c]) := by
  intro d hd
  rcases List.mem_append.mp hd with hd | hd
  · exact hv d hd
  · rw [List.mem_singleton.mp hd]
    exact hc

/-- If nothing is to be trimmed from pieces put together, the first of them has words. -/
theorem words_ne_nil_of_mem_head {c : Char} (hc : isSpace c = true) {p : List Char}
    {ps : List (List Char)} (h : Trimmed (join [c] ps)) (hne : join [c] ps ≠ [])
    (hp : p ∈ ps.head?) : words p ≠ [] := by
  intro hwords
  have hblank : Blank p := words_eq_nil_iff.mp hwords
  obtain ⟨qs, rfl⟩ := List.head?_eq_some_iff.mp hp
  cases qs with
  | nil => exact hne (Trimmed.eq_nil_of_blank_start (s := []) (by simpa [join] using h) hblank)
  | cons q qs =>
    rw [join_cons_cons, List.append_cons] at h
    exact absurd (h.eq_nil_of_blank_start (blank_concat hblank hc)) (by simp)

/-- If nothing is to be trimmed from pieces put together, the last of them has words. -/
theorem words_ne_nil_of_mem_getLast {c : Char} (hc : isSpace c = true) {p : List Char}
    {ps : List (List Char)} (h : Trimmed (join [c] ps)) (hne : join [c] ps ≠ [])
    (hp : p ∈ ps.getLast?) : words p ≠ [] := by
  intro hwords
  have hblank : Blank p := words_eq_nil_iff.mp hwords
  obtain ⟨qs, rfl⟩ := List.getLast?_eq_some_iff.mp hp
  by_cases hqs : qs = []
  · subst hqs
    exact hne (Trimmed.eq_nil_of_blank_stop (s := []) h hblank)
  · rw [join_append hqs (by simp)] at h
    exact absurd (h.eq_nil_of_blank_stop (blank_cons hc hblank)) (by simp)

theorem head?_join {c : Char} {p : List Char} (hp : p ≠ []) (ps : List (List Char)) :
    (join [c] (p :: ps)).head? = p.head? := by
  cases ps with
  | nil => rfl
  | cons q qs => rw [join_cons_cons, List.head?_append_of_ne_nil _ hp]

theorem getLast?_join {c : Char} {p : List Char} (hp : p ≠ []) (ps : List (List Char)) :
    (join [c] (ps ++ [p])).getLast? = p.getLast? := by
  by_cases hps : ps = []
  · rw [hps]
    rfl
  · rw [join_append hps (by simp), List.append_cons]
    exact List.getLast?_append_of_ne_nil _ hp

/-- Pieces of which the first and the last need no trimming need none together. -/
theorem trimmed_join {c : Char} {ps : List (List Char)}
    (hfirst : ∀ p ∈ ps.head?, p ≠ [] ∧ Trimmed p) (hlast : ∀ p ∈ ps.getLast?, p ≠ [] ∧ Trimmed p) :
    Trimmed (join [c] ps) where
  start := by
    cases ps with
    | nil =>
      intro d hd
      cases hd
    | cons p ps =>
      obtain ⟨hp, htrimmed⟩ := hfirst p rfl
      rw [head?_join hp]
      exact htrimmed.start
  stop := by
    rcases List.eq_nil_or_concat ps with rfl | ⟨ps, p, rfl⟩
    · intro d hd
      cases hd
    · rw [List.concat_eq_append] at hlast ⊢
      obtain ⟨hp, htrimmed⟩ := hlast p List.getLast?_concat
      rw [getLast?_join hp]
      exact htrimmed.stop

theorem IsWord.trimmed {w : List Char} (h : IsWord w) : Trimmed w where
  start := fun c hc => h.unspaced c (List.mem_of_mem_head? hc)
  stop := fun c hc => h.unspaced c (List.mem_of_mem_getLast? hc)

theorem trimmed_row {row : List (List Char)} (h : ∀ w ∈ row, IsWord w) :
    Trimmed (join [' '] row) :=
  trimmed_join
    (fun w hw => have hword := h w (List.mem_of_mem_head? hw); ⟨hword.nonempty, hword.trimmed⟩)
    (fun w hw => have hword := h w (List.mem_of_mem_getLast? hw); ⟨hword.nonempty, hword.trimmed⟩)

theorem exists_mem_head_of_flatten {f : List Char → List (List Char)} (hf : ∀ p, f p ≠ [])
    {ps : List (List Char)} {l : List Char} (h : l ∈ (ps.map f).flatten.head?) :
    ∃ p ∈ ps.head?, l ∈ f p := by
  cases ps with
  | nil => cases h
  | cons p ps =>
    rw [List.map_cons, List.flatten_cons, List.head?_append_of_ne_nil _ (hf p)] at h
    exact ⟨p, rfl, List.mem_of_mem_head? h⟩

theorem exists_mem_getLast_of_flatten {f : List Char → List (List Char)} (hf : ∀ p, f p ≠ [])
    {ps : List (List Char)} {l : List Char} (h : l ∈ (ps.map f).flatten.getLast?) :
    ∃ p ∈ ps.getLast?, l ∈ f p := by
  rcases List.eq_nil_or_concat ps with rfl | ⟨ps, p, rfl⟩
  · cases h
  · rw [List.concat_eq_append] at h ⊢
    rw [List.map_append, List.flatten_append, List.map_singleton, List.flatten_singleton,
      List.getLast?_append_of_ne_nil _ (hf p)] at h
    exact ⟨p, List.getLast?_concat, List.mem_of_mem_getLast? h⟩

theorem HasLines.lines_eq {s : List Char} {ls : List (List Char)} (h : HasLines s ls) :
    lines s = ls ++ [[]] := by
  obtain ⟨rfl, hunbroken⟩ := h
  induction ls with
  | nil => rfl
  | cons l ls ih =>
    have hl : cut (· == '\n') l = [l] := by
      refine cut_eq_singleton fun c hc => ?_
      rw [beq_eq_false_iff_ne]
      rintro rfl
      exact hunbroken l List.mem_cons_self hc
    rw [List.flatMap_cons, List.append_assoc, List.singleton_append, lines,
      cut_append_cons (by decide), hl]
    exact congrArg (l :: ·) (ih fun k hk => hunbroken k (List.mem_cons_of_mem l hk))

end ProtoSchema.Text

namespace ProtoSchema.Proto

open Text

/-! ## Leads -/

/-- A line of a comment from what it says; one that says nothing is the lead without the spaces at
its end. -/
def withLead (lead l : List Char) : List Char := if l = [] then bareLead lead else lead ++ l

/-- What a line of a comment says. -/
def withoutLead (lead l : List Char) : List Char :=
  if l = bareLead lead then [] else if lead.isPrefixOf l then l.drop lead.length else l

/-- The text of a comment: what its lines say, with line breaks between them. -/
def uncomment (lead out : String) : String :=
  String.ofList (join ['\n'] ((lines out.toList).dropLast.map (withoutLead lead.toList)))

theorem withoutLead_withLead (lead l : List Char) : withoutLead lead (withLead lead l) = l := by
  unfold withLead withoutLead
  by_cases hl : l = []
  · rw [if_pos hl, if_pos rfl, hl]
  · have hlonger : lead ++ l ≠ bareLead lead := by
      intro heq
      have hshort : (bareLead lead).length ≤ lead.length :=
        (List.rdropWhile_prefix (· == ' ') lead).length_le
      have hpos := List.length_pos_iff.mpr hl
      rw [← heq, List.length_append] at hshort
      omega
    have hstart : lead.isPrefixOf (lead ++ l) = true :=
      List.isPrefixOf_iff_prefix.mpr (List.prefix_append lead l)
    rw [if_neg hl, if_neg hlonger, if_pos hstart, List.drop_left]

theorem withLead_nil (l : List Char) : withLead [] l = l := by
  unfold withLead
  by_cases hl : l = []
  · rw [if_pos hl, hl]
    rfl
  · rw [if_neg hl, List.nil_append]

/-! ## Settled lines -/

/-- A line is settled if it is all that it becomes as a paragraph. -/
def Settled (l : List Char) : Prop := ∀ lead, paragraphLines lead l = [withLead lead l]

theorem paragraphLines_of_blank {p : List Char} (h : words p = []) (lead : List Char) :
    paragraphLines lead p = [withLead lead []] := by
  unfold paragraphLines
  rw [h]
  rfl

/-- The lines of a paragraph with words, whatever the lead is. -/
theorem exists_rows {p : List Char} (h : words p ≠ []) :
    ∃ rows, Fills rows (words p) ∧
      ∀ lead, paragraphLines lead p = rows.map fun row => lead ++ join [' '] row := by
  obtain ⟨w, ws, hwords⟩ := List.exists_cons_of_ne_nil h
  obtain ⟨rows, hfills, heq⟩ := exists_fills ws [w] (by simp) (.inr rfl)
  have hfill : fill w w.length ws = rows.map (join [' ']) := heq
  refine ⟨rows, hwords ▸ hfills, fun lead => ?_⟩
  unfold paragraphLines
  rw [hwords]
  show (fill w w.length ws).map (lead ++ ·) = _
  rw [hfill, List.map_map]
  rfl

theorem settled_nil : Settled [] := paragraphLines_of_blank rfl

/-- A row that fits is filled already. -/
theorem settled_row {row : List (List Char)} (hrow : ∀ w ∈ row, IsWord w) (hne : row ≠ [])
    (hfits : Fits row) : Settled (join [' '] row) := by
  intro lead
  obtain ⟨w, ws, rfl⟩ := List.exists_cons_of_ne_nil hne
  have hfills : Fills [w :: ws] (w :: ws) :=
    ⟨by simp, by simp, by simpa using hfits, List.isChain_singleton _⟩
  have hline : join [' '] (w :: ws) ≠ [] := by
    intro hnil
    have hwords := words_row hrow
    rw [hnil] at hwords
    cases hwords
  unfold paragraphLines withLead
  rw [words_row hrow, if_neg hline]
  show (fill w w.length ws).map (lead ++ ·) = _
  rw [fill_eq_of_fills hfills]
  rfl

/-- What a paragraph becomes, whatever the lead is: lines that are settled and have its words. Only
a paragraph without words has a line that says nothing. -/
structure Settles (p : List Char) (ls : List (List Char)) : Prop where
  lines_eq : ∀ lead, paragraphLines lead p = ls.map (withLead lead)
  nonempty : ls ≠ []
  settled : ∀ l ∈ ls, Settled l
  trimmed : ∀ l ∈ ls, Trimmed l
  words_eq : ls.flatMap words = words p
  filled : words p ≠ [] → ∀ l ∈ ls, l ≠ []

theorem settles_of_fills {p : List Char} {rows : List (List (List Char))}
    (hfills : Fills rows (words p))
    (hlines : ∀ lead, paragraphLines lead p = rows.map fun row => lead ++ join [' '] row)
    (hne : words p ≠ []) : Settles p (rows.map (join [' '])) := by
  have hwords : ∀ row ∈ rows, ∀ w ∈ row, IsWord w := by
    intro row hrow w hw
    refine isWord_of_mem_words (s := p) ?_
    rw [← hfills.words]
    exact List.mem_flatten_of_mem hrow hw
  have hline : ∀ row ∈ rows, join [' '] row ≠ [] := by
    intro row hrow hnil
    have hread := words_row (hwords row hrow)
    rw [hnil] at hread
    exact hfills.nonempty row hrow hread.symm
  refine ⟨fun lead => ?_, ?_, ?_, ?_, ?_, fun _ => ?_⟩
  · rw [hlines, List.map_map]
    exact List.map_congr_left fun row hrow => (if_neg (hline row hrow)).symm
  · intro hnil
    rw [List.map_eq_nil_iff] at hnil
    rw [hnil] at hfills
    exact hne hfills.words.symm
  · intro l hl
    obtain ⟨row, hrow, rfl⟩ := List.mem_map.mp hl
    exact settled_row (hwords row hrow) (hfills.nonempty row hrow) (hfills.fits row hrow)
  · intro l hl
    obtain ⟨row, hrow, rfl⟩ := List.mem_map.mp hl
    exact trimmed_row (hwords row hrow)
  · rw [List.flatMap_map, ← hfills.words, List.flatMap_def]
    exact congrArg List.flatten
      ((List.map_congr_left fun row hrow => words_row (hwords row hrow)).trans (List.map_id' rows))
  · intro l hl
    obtain ⟨row, hrow, rfl⟩ := List.mem_map.mp hl
    exact hline row hrow

/-- What the lines of a paragraph say is what they are without a lead. -/
theorem settles_paragraphLines (p : List Char) : Settles p (paragraphLines [] p) := by
  have hexists : ∃ ls, Settles p ls := by
    by_cases h : words p = []
    · refine ⟨[[]], paragraphLines_of_blank h, by simp, ?_, ?_, ?_, fun hne => absurd h hne⟩
      · simpa using settled_nil
      · simpa using (⟨by simp, by simp⟩ : Trimmed [])
      · rw [h]
        rfl
    · obtain ⟨rows, hfills, hlines⟩ := exists_rows h
      exact ⟨_, settles_of_fills hfills hlines h⟩
  obtain ⟨ls, hsettles⟩ := hexists
  have hself : paragraphLines [] p = ls := by
    rw [hsettles.lines_eq, List.map_congr_left fun l _ => withLead_nil l, List.map_id']
  rwa [hself]

/-! ## Comments without a lead -/

/-- A comment is the comment without a lead, with the lead before each line. -/
theorem commentLines_eq_map_withLead (lead text : List Char) :
    commentLines lead text = (commentLines [] text).map (withLead lead) := by
  by_cases h : Blank text
  · rw [commentLines_of_blank h, commentLines_of_blank h]
    rfl
  · rw [commentLines_of_not_blank h, commentLines_of_not_blank h, List.map_flatten, List.map_map]
    exact congrArg List.flatten
      (List.map_congr_left fun p _ => (settles_paragraphLines p).lines_eq lead)

theorem settled_of_mem_commentLines {l text : List Char} (hl : l ∈ commentLines [] text) :
    Settled l ∧ Trimmed l := by
  by_cases h : Blank text
  · rw [commentLines_of_blank h] at hl
    cases hl
  · rw [commentLines_of_not_blank h] at hl
    obtain ⟨group, hgroup, hlgroup⟩ := List.mem_flatten.mp hl
    obtain ⟨p, -, rfl⟩ := List.mem_map.mp hgroup
    have hsettles := settles_paragraphLines p
    exact ⟨hsettles.settled l hlgroup, hsettles.trimmed l hlgroup⟩

theorem trimmed_join_lines {text : List Char} (h : ¬ Blank text) :
    Trimmed (join ['\n'] (lines (trim text))) ∧ join ['\n'] (lines (trim text)) ≠ [] := by
  rw [lines, join_cut]
  exact ⟨trimmed_trim text, mt trim_eq_nil_iff.mp h⟩

theorem ne_nil_of_mem_head {l text : List Char} (hl : l ∈ (commentLines [] text).head?) :
    l ≠ [] := by
  by_cases h : Blank text
  · rw [commentLines_of_blank h] at hl
    cases hl
  · rw [commentLines_of_not_blank h] at hl
    obtain ⟨p, hp, hlp⟩ := exists_mem_head_of_flatten
      (fun p => (settles_paragraphLines p).nonempty) hl
    obtain ⟨htrimmed, hne⟩ := trimmed_join_lines h
    have hwords : words p ≠ [] := words_ne_nil_of_mem_head (by decide) htrimmed hne hp
    exact (settles_paragraphLines p).filled hwords l hlp

theorem ne_nil_of_mem_getLast {l text : List Char} (hl : l ∈ (commentLines [] text).getLast?) :
    l ≠ [] := by
  by_cases h : Blank text
  · rw [commentLines_of_blank h] at hl
    cases hl
  · rw [commentLines_of_not_blank h] at hl
    obtain ⟨p, hp, hlp⟩ := exists_mem_getLast_of_flatten
      (fun p => (settles_paragraphLines p).nonempty) hl
    obtain ⟨htrimmed, hne⟩ := trimmed_join_lines h
    have hwords : words p ≠ [] := words_ne_nil_of_mem_getLast (by decide) htrimmed hne hp
    exact (settles_paragraphLines p).filled hwords l hlp

/-- The lines of a comment without a lead are the paragraphs of the text that they make up. -/
theorem hasParagraphs_join_commentLines {text : List Char} (h : ¬ Blank text) :
    HasParagraphs (join ['\n'] (commentLines [] text)) (commentLines [] text) where
  eq := ⟨[], [], by simp [Blank], by simp [Blank], by simp⟩
  trimmed := trimmed_join
    (fun _ hl =>
      ⟨ne_nil_of_mem_head hl, (settled_of_mem_commentLines (List.mem_of_mem_head? hl)).2⟩)
    (fun _ hl =>
      ⟨ne_nil_of_mem_getLast hl, (settled_of_mem_commentLines (List.mem_of_mem_getLast? hl)).2⟩)
  nonempty := fun hnil => h (commentLines_eq_nil_iff.mp hnil)
  unbroken := fun _ hl => unbroken_of_mem_commentLines (by simp) hl

theorem words_join_commentLines (text : List Char) :
    words (join ['\n'] (commentLines [] text)) = words text := by
  rw [words_join (by decide)]
  by_cases h : Blank text
  · rw [commentLines_of_blank h, words_eq_nil_iff.mpr h]
    rfl
  · rw [commentLines_of_not_blank h, ← words_trim text, ← words_lines, ← List.flatMap_def,
      List.flatMap_assoc, List.flatMap_def, List.flatMap_def]
    exact congrArg List.flatten
      (List.map_congr_left fun p _ => (settles_paragraphLines p).words_eq)

theorem commentLines_join_commentLines (lead text : List Char) :
    commentLines lead (join ['\n'] (commentLines [] text)) = commentLines lead text := by
  by_cases h : Blank text
  · rw [commentLines_of_blank h, commentLines_of_blank h]
    exact commentLines_of_blank (by simp [Blank, join]) lead
  · have hblank : ¬ Blank (join ['\n'] (commentLines [] text)) := by
      rw [← words_eq_nil_iff, words_join_commentLines, words_eq_nil_iff]
      exact h
    have hlines : (commentLines [] text).map (paragraphLines lead) =
        (commentLines [] text).map fun l => [withLead lead l] :=
      List.map_congr_left fun l hl => (settled_of_mem_commentLines hl).1 lead
    rw [commentLines_of_not_blank hblank, lines_trim_eq_iff.mpr (hasParagraphs_join_commentLines h),
      hlines, ← List.flatMap_def, ← List.map_eq_flatMap, ← commentLines_eq_map_withLead]

/-! ## Comments as texts -/

theorem uncomment_comment {lead : String} (hlead : '\n' ∉ lead.toList) (text : String) :
    uncomment lead (comment lead text) =
      String.ofList (join ['\n'] (commentLines [] text.toList)) := by
  have hlines : HasLines (comment lead text).toList (commentLines lead.toList text.toList) :=
    ⟨toList_comment lead text, fun _ hl => unbroken_of_mem_commentLines hlead hl⟩
  have hsaid : withoutLead lead.toList ∘ withLead lead.toList = id :=
    funext fun l => withoutLead_withLead lead.toList l
  rw [uncomment, hlines.lines_eq, List.dropLast_concat, commentLines_eq_map_withLead, List.map_map,
    hsaid, List.map_id]

/-- Filling is idempotent. A comment whose lines are taken off their lead and joined with line breaks
is a text that gives the same comment. No word is lost on the way. -/
theorem comment_uncomment {lead : String} (hlead : '\n' ∉ lead.toList) (text : String) :
    comment lead (uncomment lead (comment lead text)) = comment lead text ∧
      words (uncomment lead (comment lead text)).toList = words text.toList := by
  rw [uncomment_comment hlead, String.toList_ofList]
  refine ⟨?_, words_join_commentLines text.toList⟩
  rw [← String.toList_inj, toList_comment, toList_comment, String.toList_ofList,
    commentLines_join_commentLines]

/-- A line of exactly eighty characters, a blank paragraph, and a word that is too long: what was one
paragraph is read as two, twice. -/
theorem comment_uncomment_eighty :
    let word (c : Char) (n : Nat) : String := String.ofList (List.replicate n c)
    let text := " " ++ word 'a' 40 ++ "\t" ++ word 'b' 39 ++ " c\n \n" ++ word 'd' 81 ++ " e\n"
    let read := word 'a' 40 ++ " " ++ word 'b' 39 ++ "\nc\n\n" ++ word 'd' 81 ++ "\ne"
    '\n' ∉ "  // ".toList ∧ uncomment "  // " (comment "  // " text) = read ∧
      comment "  // " read = comment "  // " text ∧ words read.toList = words text.toList := by
  intro word text read
  have hlead : '\n' ∉ "  // ".toList := by decide
  have hread : uncomment "  // " (comment "  // " text) = read := by
    rw [uncomment_comment hlead, ← String.toList_inj, String.toList_ofList]
    simp only [text, read, word, String.toList_append, String.toList_ofList]
    decide +kernel
  have hagain := comment_uncomment hlead text
  rw [hread] at hagain
  exact ⟨hlead, hread, hagain⟩

end ProtoSchema.Proto
