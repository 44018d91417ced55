import ProtoSchema.Command.Run
import ProtoSchema.Proofs.Filling

/-!
# Records that are read back

The names of roles that a command line gives are collected, written as one record, and read from it
again. Little happens to them on this way (`read_write`): a single empty name is written as no text
and so is lost, and a carriage return before a line feed is not told from the line feed alone.

Reading first puts plain line feeds into the whole text. In a record that was written this is the
same as putting them into the names beforehand (`plainLines_join`), since line breaks only stand
between quotes. After that a record is read field by field (`readFrom_writeField`), and each field
comes out as it was.

What the flags ask of a rendering is therefore known (`options_eq`).
-/

namespace ProtoSchema.Command

open Text

namespace Record

/-- A text with plain line feeds: a carriage return before a line feed goes. -/
def plainBreaks : List Char → List Char
  | [] => []
  | '\r' :: '\n' :: r => '\n' :: plainBreaks r
  | c :: r => c :: plainBreaks r

/-- What is left of names once they have been written and read. -/
def reread (names : List String) : List String :=
  if names = [""] then [] else names.map fun n => String.ofList (plainBreaks n.toList)

/-! ## Line breaks -/

/-- A text in which no carriage return stands before a line feed stays as it is. -/
theorem plainBreaks_eq_self {s : List Char} (h : ∀ front back, s ≠ front ++ '\r' :: '\n' :: back) :
    plainBreaks s = s := by
  fun_induction plainBreaks s with
  | case1 => rfl
  | case2 r ih => exact absurd rfl (h [] r)
  | case3 c r _ ih =>
    rw [ih]
    rintro front back rfl
    exact h (c :: front) back rfl

theorem plainLines_cons {c : Char} {r : List Char} (h : c = '\r' → ∃ d t, r = d :: t ∧ d ≠ '\n') :
    plainLines (c :: r) = c :: plainLines r := by
  rw [plainLines]
  · rintro hc rfl
    obtain ⟨d, t, hnil, -⟩ := h hc
    cases hnil
  · rintro t hc rfl
    obtain ⟨d, t', hr, hd⟩ := h hc
    cases hr
    exact hd rfl

theorem plainLines_cons_of_ne {c : Char} (h : c ≠ '\r') (r : List Char) :
    plainLines (c :: r) = c :: plainLines r :=
  plainLines_cons fun hc => absurd hc h

theorem ne_of_not_isMark {c : Char} (h : isMark c = false) :
    c ≠ '\n' ∧ c ≠ '\r' ∧ c ≠ '"' ∧ c ≠ ',' := by
  simpa [isMark, and_assoc] using h

theorem plainBreaks_of_unmarked {s : List Char} (h : ∀ c ∈ s, isMark c = false) :
    plainBreaks s = s := by
  refine plainBreaks_eq_self ?_
  rintro front back rfl
  exact absurd (h '\n' (by simp)) (by decide)

theorem any_isMark_plainBreaks (s : List Char) : (plainBreaks s).any isMark = s.any isMark := by
  fun_induction plainBreaks s with
  | case1 => rfl
  | case2 r ih => simp [isMark]
  | case3 c r _ ih => rw [List.any_cons, List.any_cons, ih]

theorem isMark_of_not_needsQuotes {s : List Char} (h : needsQuotes s = false) :
    ∀ c ∈ s, isMark c = false := by
  simp only [needsQuotes, Bool.or_eq_false_iff, List.any_eq_false, Bool.not_eq_true] at h
  exact h.1.2

theorem needsQuotes_plainBreaks (s : List Char) : needsQuotes (plainBreaks s) = needsQuotes s := by
  cases hmark : s.any isMark with
  | true =>
    have hplain := any_isMark_plainBreaks s
    unfold needsQuotes
    rw [hplain, hmark]
    simp only [Bool.or_true, Bool.true_or]
  | false =>
    rw [plainBreaks_of_unmarked]
    simpa only [List.any_eq_false, Bool.not_eq_true] using hmark

theorem plainLines_unmarked {s : List Char} (h : ∀ c ∈ s, isMark c = false) (rest : List Char) :
    plainLines (s ++ rest) = s ++ plainLines rest := by
  induction s with
  | nil => rfl
  | cons c r ih =>
    have hc := ne_of_not_isMark (h c List.mem_cons_self)
    rw [List.cons_append, plainLines_cons_of_ne hc.2.1,
      ih fun d hd => h d (List.mem_cons_of_mem c hd), List.cons_append]

theorem doubled_quote (s : List Char) : doubled ('"' :: s) = '"' :: '"' :: doubled s := rfl

theorem doubled_cons {c : Char} (h : c ≠ '"') (s : List Char) :
    doubled (c :: s) = c :: doubled s := by
  simp [doubled, h]

/-- What follows a carriage return between quotes is no line feed, unless it was one. -/
theorem exists_doubled_eq {s : List Char} (h : s.head? ≠ some '\n') (rest : List Char) :
    ∃ d t, doubled s ++ '"' :: rest = d :: t ∧ d ≠ '\n' := by
  cases s with
  | nil => exact ⟨'"', rest, rfl, by decide⟩
  | cons d t =>
    by_cases hquote : d = '"'
    · rw [hquote, doubled_quote]
      exact ⟨'"', _, rfl, by decide⟩
    · rw [doubled_cons hquote]
      refine ⟨d, _, rfl, ?_⟩
      rintro rfl
      exact h rfl

theorem plainLines_doubled (s rest : List Char) :
    plainLines (doubled s ++ '"' :: rest) = doubled (plainBreaks s) ++ '"' :: plainLines rest := by
  fun_induction plainBreaks s with
  | case1 => exact plainLines_cons_of_ne (by decide) rest
  | case2 r ih => exact congrArg ('\n' :: ·) ih
  | case3 c r hbreak ih =>
    by_cases hquote : c = '"'
    · subst hquote
      rw [doubled_quote, doubled_quote, List.cons_append, List.cons_append,
        plainLines_cons_of_ne (by decide), plainLines_cons_of_ne (by decide), ih]
      rfl
    · have hfollows : c = '\r' → ∃ d t, doubled r ++ '"' :: rest = d :: t ∧ d ≠ '\n' := by
        intro hc
        refine exists_doubled_eq (fun hhead => ?_) rest
        obtain ⟨t, rfl⟩ := List.head?_eq_some_iff.mp hhead
        exact hbreak t hc rfl
      rw [doubled_cons hquote, doubled_cons hquote, List.cons_append, plainLines_cons hfollows, ih]
      rfl

/-- In a written field only the line breaks between its quotes are touched. -/
theorem plainLines_writeField (s rest : List Char) :
    plainLines (writeField s ++ rest) = writeField (plainBreaks s) ++ plainLines rest := by
  unfold writeField
  rw [needsQuotes_plainBreaks]
  cases hquotes : needsQuotes s with
  | true =>
    simp only [if_true, List.cons_append, List.append_assoc, List.nil_append]
    rw [plainLines_cons_of_ne (by decide), plainLines_doubled]
  | false =>
    have hmarks := isMark_of_not_needsQuotes hquotes
    simp only [Bool.false_eq_true, if_false]
    rw [plainLines_unmarked hmarks, plainBreaks_of_unmarked hmarks]

/-- Putting plain line feeds into a record puts them into its fields. -/
theorem plainLines_join (fields : List (List Char)) :
    plainLines (join [','] (fields.map writeField)) =
      join [','] ((fields.map plainBreaks).map writeField) := by
  have hlater (fs : List (List Char)) :
      plainLines ((fs.map writeField).flatMap (',' :: ·)) =
        ((fs.map plainBreaks).map writeField).flatMap (',' :: ·) := by
    induction fs with
    | nil => rfl
    | cons f fs ih =>
      simp only [List.map_cons, List.flatMap_cons, List.cons_append]
      rw [plainLines_cons_of_ne (by decide), plainLines_writeField, ih]
  cases fields with
  | nil => rfl
  | cons f fields =>
    simp only [List.map_cons, join_cons]
    rw [plainLines_writeField, hlater]

/-! ## Fields -/

variable (line : Nat)

theorem readFrom_nil {state : State} (hstate : state ≠ .quoted) (p : RecordPosition)
    (field : List Char) : readFrom line p state field [] = .ok [String.ofList field.reverse] := by
  cases state with
  | quoted => exact absurd rfl hstate
  | start => rfl
  | plain => rfl
  | afterQuote => rfl

/-- A comma ends the field. -/
theorem readFrom_comma {state : State} (hstate : state ≠ .quoted) (p : RecordPosition)
    (field : List Char) (rest : List Char) :
    ∃ q, readFrom line p state field (',' :: rest) =
      (readFrom line q .start [] rest).map (String.ofList field.reverse :: ·) := by
  refine ⟨{ p with column := p.column + ','.utf8Size }, ?_⟩
  cases state with
  | quoted => exact absurd rfl hstate
  | start => rfl
  | plain => rfl
  | afterQuote => rfl

theorem readFrom_unmarked {s : List Char} (h : ∀ c ∈ s, isMark c = false) {state : State}
    (hstate : state = .start ∨ state = .plain) (p : RecordPosition) (field rest : List Char) :
    ∃ q next, (next = .start ∨ next = .plain) ∧
      readFrom line p state field (s ++ rest) =
        readFrom line q next (s.reverse ++ field) rest := by
  induction s generalizing state p field with
  | nil => exact ⟨p, state, hstate, rfl⟩
  | cons c r ih =>
    obtain ⟨hfeed, -, hquote, hcomma⟩ := ne_of_not_isMark (h c List.mem_cons_self)
    have hstep : readFrom line p state field (c :: (r ++ rest)) =
        readFrom line { p with column := p.column + c.utf8Size } .plain (c :: field)
          (r ++ rest) := by
      rcases hstate with rfl | rfl <;> simp [readFrom, hfeed, hquote, hcomma]
    obtain ⟨q, next, hnext, hrest⟩ :=
      ih (fun d hd => h d (List.mem_cons_of_mem c hd)) (.inr rfl) _ (c :: field)
    exact ⟨q, next, hnext, by rw [List.cons_append, hstep, hrest]; simp⟩

/-- Between quotes every character is taken as it is. -/
theorem readFrom_quoted {c : Char} (h : c ≠ '"') (p : RecordPosition) (field rest : List Char) :
    ∃ q, readFrom line p .quoted field (c :: rest) =
      readFrom line q .quoted (c :: field) rest := by
  rw [readFrom]
  simp only [beq_iff_eq, h, if_false]
  exact ⟨_, rfl⟩

theorem readFrom_doubled (s : List Char) (p : RecordPosition) (field rest : List Char) :
    ∃ q, readFrom line p .quoted field (doubled s ++ '"' :: rest) =
      readFrom line q .afterQuote (s.reverse ++ field) rest := by
  induction s generalizing p field with
  | nil => exact ⟨_, rfl⟩
  | cons c r ih =>
    rw [List.reverse_cons, List.append_assoc, List.singleton_append]
    by_cases hquote : c = '"'
    · subst hquote
      -- two quotes bring the reader back between the quotes
      rw [doubled_quote]
      exact ih _ ('"' :: field)
    · obtain ⟨q, hstep⟩ := readFrom_quoted line hquote p field (doubled r ++ '"' :: rest)
      rw [doubled_cons hquote, List.cons_append, hstep]
      exact ih q (c :: field)

/-- A written field is read as it was; only what follows it can end it. -/
theorem readFrom_writeField (s : List Char) (p : RecordPosition) (rest : List Char) :
    ∃ q state, state ≠ .quoted ∧ readFrom line p .start [] (writeField s ++ rest) =
      readFrom line q state s.reverse rest := by
  unfold writeField
  cases hquotes : needsQuotes s with
  | true =>
    simp only [if_true, List.cons_append, List.append_assoc, List.nil_append]
    obtain ⟨q, hdoubled⟩ := readFrom_doubled line s
      { p with column := p.column + '"'.utf8Size } [] rest
    rw [List.append_nil] at hdoubled
    exact ⟨q, .afterQuote, by decide, hdoubled⟩
  | false =>
    simp only [Bool.false_eq_true, if_false]
    obtain ⟨q, state, hstate, hplain⟩ :=
      readFrom_unmarked line (isMark_of_not_needsQuotes hquotes) (.inl rfl) p [] rest
    rw [List.append_nil] at hplain
    refine ⟨q, state, ?_, hplain⟩
    rcases hstate with rfl | rfl <;> decide

/-- The fields after the first, each with the comma before it. -/
theorem readFrom_commas (fields : List (List Char)) {state : State} (hstate : state ≠ .quoted)
    (p : RecordPosition) (field : List Char) :
    readFrom line p state field ((fields.map writeField).flatMap (',' :: ·)) =
      .ok (String.ofList field.reverse :: fields.map String.ofList) := by
  induction fields generalizing state p field with
  | nil => exact readFrom_nil line hstate p field
  | cons f fields ih =>
    obtain ⟨q, hcomma⟩ := readFrom_comma line hstate p field
      (writeField f ++ (fields.map writeField).flatMap (',' :: ·))
    obtain ⟨q', next, hnext, hfield⟩ := readFrom_writeField line f q
      ((fields.map writeField).flatMap (',' :: ·))
    rw [List.map_cons, List.flatMap_cons, List.cons_append, hcomma, hfield,
      ih hnext q' f.reverse, List.reverse_reverse]
    rfl

/-- The fields of a written record are read as they were. -/
theorem readFrom_join {fields : List (List Char)} (hne : fields ≠ []) (p : RecordPosition) :
    readFrom line p .start [] (join [','] (fields.map writeField)) =
      .ok (fields.map String.ofList) := by
  obtain ⟨f, fields, rfl⟩ := List.exists_cons_of_ne_nil hne
  obtain ⟨q, state, hstate, hfield⟩ := readFrom_writeField line f p
    ((fields.map writeField).flatMap (',' :: ·))
  rw [List.map_cons, join_cons, hfield, readFrom_commas line fields hstate, List.reverse_reverse]
  rfl

/-! ## Records -/

theorem head?_writeField (s : List Char) : (writeField s).head? ≠ some '\n' := by
  unfold writeField
  cases hquotes : needsQuotes s with
  | true => simp
  | false =>
    intro hhead
    simp only [Bool.false_eq_true, if_false] at hhead
    have hmark := isMark_of_not_needsQuotes hquotes '\n' (List.mem_of_mem_head? hhead)
    exact absurd hmark (by decide)

theorem writeField_eq_nil {s : List Char} (h : writeField s = []) : s = [] := by
  unfold writeField at h
  split at h
  · cases h
  · exact h

/-- A written record has no text if there is no name or a single empty one. Otherwise its first line
is not empty. -/
theorem join_cases (fields : List (List Char)) :
    fields = [] ∨ fields = [[]] ∨
      ∃ c r, join [','] (fields.map writeField) = c :: r ∧ c ≠ '\n' := by
  cases fields with
  | nil => exact .inl rfl
  | cons f fields =>
    have hhead := head?_writeField f
    rw [List.map_cons, join_cons]
    cases hwritten : writeField f with
    | cons c r =>
      rw [hwritten] at hhead
      exact .inr (.inr ⟨c, _, rfl, fun hc => hhead (congrArg some hc)⟩)
    | nil =>
      rw [writeField_eq_nil hwritten]
      cases fields with
      | nil => exact .inr (.inl rfl)
      | cons g fields => exact .inr (.inr ⟨',', _, rfl, by decide⟩)

theorem readLine_of_head {c : Char} (h : c ≠ '\n') (r : List Char) :
    readLine line (c :: r) = readFrom line { line := line } .start [] (c :: r) := by
  rw [readLine]
  · simp
  · rintro t heq
    cases heq
    exact h rfl

theorem readLine_join {fields : List (List Char)} (hne : fields ≠ []) (hempty : fields ≠ [[]]) :
    readLine line (join [','] (fields.map writeField)) = .ok (fields.map String.ofList) := by
  obtain hnil | hsingle | ⟨c, r, hjoin, hc⟩ := join_cases fields
  · exact absurd hnil hne
  · exact absurd hsingle hempty
  · rw [hjoin, readLine_of_head line hc, ← hjoin]
    exact readFrom_join line hne _

theorem plainBreaks_eq_nil {s : List Char} (h : plainBreaks s = []) : s = [] := by
  fun_cases plainBreaks s with
  | case1 => rfl
  | case2 r => cases h
  | case3 c r hbreak =>
    rw [plainBreaks] at h
    · cases h
    · exact hbreak

/-- What becomes of names that are written as a record and read from it again. -/
theorem read_write (names : List String) : read (write names) = .ok (reread names) := by
  by_cases hnone : names = []
  · subst hnone
    rfl
  by_cases hsingle : names = [""]
  · subst hsingle
    rfl
  let fields := names.map String.toList
  have hne : fields ≠ [] := by simpa [fields] using hnone
  have hempty : fields ≠ [[]] := by simpa [fields, List.map_eq_singleton_iff] using hsingle
  have htext : (write names).toList = join [','] (fields.map writeField) := by
    rw [write, String.toList_ofList, List.map_map]
    rfl
  have hwritten : (write names).isEmpty = false := by
    obtain hnil | hnil | ⟨c, r, hjoin, -⟩ := join_cases fields
    · exact absurd hnil hne
    · exact absurd hnil hempty
    · rw [← Bool.not_eq_true, String.isEmpty_iff, ← String.toList_eq_nil_iff, htext, hjoin]
      simp
  have hplain : fields.map plainBreaks ≠ [[]] := by
    intro heq
    obtain ⟨f, hf, hnil⟩ := List.map_eq_singleton_iff.mp heq
    exact hempty (by rw [hf, plainBreaks_eq_nil hnil])
  unfold read
  rw [hwritten, htext, plainLines_join, if_neg Bool.false_ne_true,
    readLine_join 1 (by simpa using hne) hplain, reread, if_neg hsingle, List.map_map, List.map_map]
  rfl

/-- Whether a name is left, or none at all. -/
theorem reread_eq_nil_or_mem {names : List String} {n : String} :
    reread names = [] ∨ n ∈ reread names ↔
      names = [] ∨ names = [""] ∨ ∃ name ∈ names, n.toList = plainBreaks name.toList := by
  by_cases hsingle : names = [""]
  · simp [reread, hsingle]
  · rw [reread, if_neg hsingle, List.map_eq_nil_iff, List.mem_map]
    simp only [hsingle, false_or, ← String.toList_inj, String.toList_ofList, eq_comm]

end Record

/-- What the flags ask of a rendering. -/
theorem Settings.options_eq (s : Settings) :
    s.options = .ok {
      package := s.package
      goPackage := s.goPackage
      filter := some (.allOf (.roles (Record.reread s.roles) ::
        if s.skip = "" then [] else [.exclude s.skip])) } := by
  unfold options roleNames
  rw [Record.read_write]
  simp only [String.isEmpty_iff]
  rfl

end ProtoSchema.Command
