import Mathlib.Data.List.DropRight
import ProtoSchema.Proto.Render

/-!
# What stands in a comment

Text that becomes a comment is cut at line breaks and at all other white space, and put together
again with single spaces. So a comment line starts with its lead, without the spaces at the end of
the lead at least, and what follows holds spaces and characters of the text that are no white space
(`mem_commentLines`). In particular no line break of a text survives.
-/

namespace ProtoSchema.Text

/-! ## Pieces of a text -/

theorem cut_ne_nil (p : Char → Bool) (s : List Char) : cut p s ≠ [] := by
  cases s with
  | nil => simp [cut]
  | cons c r =>
    unfold cut
    split
    · simp
    · split <;> simp

/-- Cutting at a separator that stands between two texts cuts both of them. -/
theorem cut_append_cons {p : Char → Bool} {c : Char} (hc : p c = true) (s t : List Char) :
    cut p (s ++ c :: t) = cut p s ++ cut p t := by
  induction s with
  | nil => simp [cut, hc]
  | cons d r ih =>
    rw [List.cons_append, cut, cut, ih]
    by_cases hd : p d = true
    · rw [if_pos hd, if_pos hd]
      rfl
    · rw [if_neg hd, if_neg hd]
      obtain ⟨piece, pieces, hr⟩ := List.exists_cons_of_ne_nil (cut_ne_nil p r)
      rw [hr]
      rfl

/-- A text without separators is one piece. -/
theorem cut_eq_singleton {p : Char → Bool} {s : List Char} (h : ∀ c ∈ s, p c = false) :
    cut p s = [s] := by
  induction s with
  | nil => rfl
  | cons c r ih =>
    rw [cut, if_neg (by simp [h c (by simp)]), ih fun d hd => h d (by simp [hd])]

/-- Putting the pieces together again gives the text. -/
theorem join_cut (c : Char) (s : List Char) : join [c] (cut (· == c) s) = s := by
  induction s with
  | nil => rfl
  | cons d r ih =>
    obtain ⟨piece, pieces, hr⟩ := List.exists_cons_of_ne_nil (cut_ne_nil (· == c) r)
    rw [hr] at ih
    rw [cut, hr]
    by_cases hd : (d == c) = true
    · rw [if_pos hd, beq_iff_eq.mp hd, join, ih]
      · rfl
      · simp
    · rw [if_neg hd]
      cases pieces with
      | nil => exact congrArg (d :: ·) ih
      | cons q qs => exact congrArg (d :: ·) ih

/-- Pieces hold what stands in the text, and no separators. -/
theorem mem_of_mem_cut {p : Char → Bool} {s piece : List Char} {c : Char} (h : piece ∈ cut p s)
    (hc : c ∈ piece) : c ∈ s ∧ p c = false := by
  induction s generalizing piece with
  | nil =>
    rw [cut, List.mem_singleton] at h
    subst h
    cases hc
  | cons d r ih =>
    rw [cut] at h
    split at h
    · rcases List.mem_cons.mp h with rfl | hr
      · cases hc
      · have hmem := ih hr hc
        exact ⟨List.mem_cons_of_mem d hmem.1, hmem.2⟩
    · rename_i hd
      obtain ⟨first, pieces, hr⟩ := List.exists_cons_of_ne_nil (cut_ne_nil p r)
      rw [hr] at h ih
      have hlater : ∀ q ∈ first :: pieces, c ∈ q → c ∈ d :: r ∧ p c = false := by
        intro q hq hcq
        have hmem := ih hq hcq
        exact ⟨List.mem_cons_of_mem d hmem.1, hmem.2⟩
      rcases List.mem_cons.mp h with rfl | hpieces
      · rcases List.mem_cons.mp hc with rfl | hfirst
        · exact ⟨List.mem_cons_self, Bool.not_eq_true _ ▸ hd⟩
        · exact hlater first List.mem_cons_self hfirst
      · exact hlater piece (List.mem_cons_of_mem first hpieces) hc

/-- What stands in a text is a separator or stands in a piece. -/
theorem mem_cut_of_mem (p : Char → Bool) {s : List Char} {c : Char} (h : c ∈ s) :
    p c = true ∨ ∃ piece ∈ cut p s, c ∈ piece := by
  induction s with
  | nil => cases h
  | cons d r ih =>
    rw [cut]
    by_cases hd : p d = true
    · rw [if_pos hd]
      rcases List.mem_cons.mp h with rfl | hr
      · exact .inl hd
      · rcases ih hr with hc | ⟨piece, hpiece, hmem⟩
        · exact .inl hc
        · exact .inr ⟨piece, List.mem_cons_of_mem [] hpiece, hmem⟩
    · rw [if_neg hd]
      obtain ⟨first, pieces, hcut⟩ := List.exists_cons_of_ne_nil (cut_ne_nil p r)
      rw [hcut] at ih ⊢
      rcases List.mem_cons.mp h with rfl | hr
      · exact .inr ⟨c :: first, List.mem_cons_self, List.mem_cons_self⟩
      · rcases ih hr with hc | ⟨piece, hpiece, hmem⟩
        · exact .inl hc
        · rcases List.mem_cons.mp hpiece with rfl | hpieces
          · exact .inr ⟨d :: piece, List.mem_cons_self, List.mem_cons_of_mem d hmem⟩
          · exact .inr ⟨piece, List.mem_cons_of_mem _ hpieces, hmem⟩

theorem mem_of_mem_words {s w : List Char} {c : Char} (h : w ∈ words s) (hc : c ∈ w) :
    c ∈ s ∧ isSpace c = false :=
  mem_of_mem_cut (List.mem_filter.mp h).1 hc

theorem mem_of_mem_trim {s : List Char} {c : Char} (h : c ∈ trim s) : c ∈ s := by
  have hstart : c ∈ trimStart s := (List.rdropWhile_prefix isSpace (trimStart s)).subset h
  exact (List.dropWhile_suffix isSpace).subset hstart

end ProtoSchema.Text

namespace ProtoSchema.Proto

open Text

/-! ## Comment lines -/

/-- What stands before the text at least: the lead without the spaces at its end. -/
def bareLead (lead : List Char) : List Char := trimEndWhile (· == ' ') lead

theorem mem_fill {line l : List Char} {length : Nat} {ws : List (List Char)} {c : Char}
    (h : l ∈ fill line length ws) (hc : c ∈ l) : c = ' ' ∨ c ∈ line ∨ ∃ w ∈ ws, c ∈ w := by
  induction ws generalizing line length with
  | nil =>
    rw [fill, List.mem_singleton] at h
    exact .inr (.inl (h ▸ hc))
  | cons w ws ih =>
    rw [fill] at h
    split at h
    · rcases List.mem_cons.mp h with rfl | hrest
      · exact .inr (.inl hc)
      · rcases ih hrest with hspace | hw | ⟨v, hv, hcv⟩
        · exact .inl hspace
        · exact .inr (.inr ⟨w, List.mem_cons_self, hw⟩)
        · exact .inr (.inr ⟨v, List.mem_cons_of_mem w hv, hcv⟩)
    · rcases ih h with hspace | hline | ⟨v, hv, hcv⟩
      · exact .inl hspace
      · rcases List.mem_append.mp hline with hline | hw
        · exact .inr (.inl hline)
        · rcases List.mem_cons.mp hw with hspace | hw
          · exact .inl hspace
          · exact .inr (.inr ⟨w, List.mem_cons_self, hw⟩)
      · exact .inr (.inr ⟨v, List.mem_cons_of_mem w hv, hcv⟩)

theorem mem_paragraphLines {lead paragraph l : List Char} (h : l ∈ paragraphLines lead paragraph) :
    ∃ t, l = bareLead lead ++ t ∧ ∀ c ∈ t, c = ' ' ∨ (c ∈ paragraph ∧ isSpace c = false) := by
  unfold paragraphLines at h
  split at h
  · exact ⟨[], by rw [List.mem_singleton.mp h, List.append_nil]; rfl, by simp⟩
  · rename_i w ws hwords
    obtain ⟨filled, hfilled, rfl⟩ := List.mem_map.mp h
    refine ⟨lead.rtakeWhile (· == ' ') ++ filled, ?_, fun c hc => ?_⟩
    · rw [← List.append_assoc]
      exact congrArg (· ++ filled) (List.rdropWhile_append_rtakeWhile ..).symm
    · rcases List.mem_append.mp hc with hlead | hc
      · exact .inl (beq_iff_eq.mp (List.mem_rtakeWhile_imp (p := (· == ' ')) hlead))
      · rcases mem_fill hfilled hc with hspace | hw | ⟨v, hv, hcv⟩
        · exact .inl hspace
        · exact .inr (mem_of_mem_words (hwords ▸ List.mem_cons_self) hw)
        · exact .inr (mem_of_mem_words (hwords ▸ List.mem_cons_of_mem w hv) hcv)

/-- A comment line is its lead, then spaces and what is no white space in the text. -/
theorem mem_commentLines {lead text l : List Char} (h : l ∈ commentLines lead text) :
    ∃ t, l = bareLead lead ++ t ∧ ∀ c ∈ t, c = ' ' ∨ (c ∈ text ∧ isSpace c = false) := by
  unfold commentLines at h
  split at h
  · cases h
  · obtain ⟨paragraph, hparagraph, hl⟩ := List.mem_flatMap.mp h
    obtain ⟨t, rfl, ht⟩ := mem_paragraphLines hl
    refine ⟨t, rfl, fun c hc => ?_⟩
    rcases ht c hc with hspace | ⟨hmem, hnot⟩
    · exact .inl hspace
    · exact .inr ⟨mem_of_mem_trim (mem_of_mem_cut hparagraph hmem).1, hnot⟩

/-! ## Leads -/

/-- Whether comments with this lead are comment lines, whatever they say. -/
def IsCommentLead (lead : List Char) : Prop :=
  ∃ v, (∀ c ∈ v, c = ' ') ∧ bareLead lead = v ++ ['/', '/']

theorem isCommentLead_top : IsCommentLead commentLead.toList :=
  ⟨[], by simp, by decide⟩

theorem isCommentLead_inner : IsCommentLead (indent ++ commentLead).toList :=
  ⟨[' ', ' '], by simp, by decide⟩

end ProtoSchema.Proto
