import Mathlib.Data.List.DropRight
import ProtoSchema.Text.Words

/-!
# White space at the ends of a text

`trim s` is what is left of `s` between two runs of white space (`exists_trim`), it neither starts
nor ends with white space (`trimmed_trim`), and white space added outside makes no difference to it
(`trim_blank_append`).
-/

namespace ProtoSchema.Text

/-- A run of white space. -/
def Blank (s : List Char) : Prop := ∀ c ∈ s, isSpace c = true

/-- No white space at the start and none at the end. -/
structure Trimmed (s : List Char) : Prop where
  start : ∀ c ∈ s.head?, isSpace c = false
  stop : ∀ c ∈ s.getLast?, isSpace c = false

theorem trimEndWhile_eq_rdropWhile (p : Char → Bool) (s : List Char) :
    trimEndWhile p s = s.rdropWhile p := rfl

theorem trimEndWhile_append {p : Char → Bool} {w : List Char} (hw : ∀ c ∈ w, p c = true)
    (s : List Char) : trimEndWhile p (s ++ w) = trimEndWhile p s := by
  unfold trimEndWhile
  rw [List.reverse_append, List.dropWhile_append_of_pos]
  intro c hc
  exact hw c (List.mem_reverse.mp hc)

theorem trimStart_append {v : List Char} (hv : Blank v) (s : List Char) :
    trimStart (v ++ s) = trimStart s :=
  List.dropWhile_append_of_pos hv

theorem trimStart_eq_nil {s : List Char} : trimStart s = [] ↔ Blank s :=
  List.dropWhile_eq_nil_iff

/-- White space outside makes no difference. -/
theorem trim_blank_append {v w : List Char} (hv : Blank v) (hw : Blank w) (s : List Char) :
    trim (v ++ s ++ w) = trim s := by
  unfold trim
  rw [List.append_assoc, trimStart_append hv]
  by_cases hs : Blank s
  · -- nothing but white space on either side
    have hsw : Blank (s ++ w) := by
      intro c hc
      rcases List.mem_append.mp hc with hc | hc
      · exact hs c hc
      · exact hw c hc
    rw [trimStart_eq_nil.mpr hsw, trimStart_eq_nil.mpr hs]
  · have hne : ¬ (trimStart s).isEmpty = true := by
      rw [List.isEmpty_iff, trimStart_eq_nil]
      exact hs
    have hstart : trimStart (s ++ w) = trimStart s ++ w := by
      unfold trimStart at hne ⊢
      rw [List.dropWhile_append, if_neg hne]
    rw [hstart, trimEndWhile_append hw]

theorem trim_trimStart (s : List Char) : trim (trimStart s) = trim s := by
  unfold trim trimStart
  rw [List.dropWhile_idempotent]

theorem trim_concat {c : Char} (hc : isSpace c = false) (s : List Char) :
    trim (s ++ [c]) = trimStart s ++ [c] := by
  have hstart : trimStart (s ++ [c]) = trimStart s ++ [c] := by
    unfold trimStart
    rw [List.dropWhile_append]
    split
    · rename_i hnil
      rw [List.isEmpty_iff.mp hnil, List.dropWhile_cons_of_neg (by rw [hc]; simp)]
      rfl
    · rfl
  rw [trim, hstart, trimEndWhile_eq_rdropWhile, List.rdropWhile_concat_neg]
  rw [hc]
  simp

/-- Trimming takes runs of white space off both ends. -/
theorem exists_trim (s : List Char) : ∃ v w, Blank v ∧ Blank w ∧ s = v ++ trim s ++ w := by
  refine ⟨s.takeWhile isSpace, (trimStart s).rtakeWhile isSpace, ?_, ?_, ?_⟩
  · intro c hc
    exact List.mem_takeWhile_imp hc
  · intro c hc
    exact List.mem_rtakeWhile_imp hc
  · rw [List.append_assoc]
    show s = _ ++ ((trimStart s).rdropWhile isSpace ++ _)
    rw [List.rdropWhile_append_rtakeWhile]
    exact List.takeWhile_append_dropWhile.symm

theorem trimmed_trim (s : List Char) : Trimmed (trim s) where
  start := by
    intro c hc
    -- what is left of a text at its end starts where the text starts
    obtain ⟨rest, hrest⟩ := List.rdropWhile_prefix isSpace (trimStart s)
    have hhead : (trimStart s).head? = some c := by
      rw [← hrest, List.head?_append,
        show ((trimStart s).rdropWhile isSpace).head? = some c from hc]
      rfl
    have hnot := List.head?_dropWhile_not isSpace s
    rw [show (s.dropWhile isSpace).head? = some c from hhead] at hnot
    exact hnot
  stop := by
    intro c hc
    rw [trim, trimEndWhile, List.getLast?_reverse] at hc
    have hnot := List.head?_dropWhile_not isSpace (trimStart s).reverse
    rw [show ((trimStart s).reverse.dropWhile isSpace).head? = some c from hc] at hnot
    exact hnot

theorem Trimmed.trimStart_eq {s : List Char} (h : Trimmed s) : trimStart s = s := by
  cases s with
  | nil => rfl
  | cons c r =>
    have hc : isSpace c = false := h.start c rfl
    exact List.dropWhile_cons_of_neg (by rw [hc]; simp)

theorem Trimmed.trim_eq {s : List Char} (h : Trimmed s) : trim s = s := by
  rw [trim, h.trimStart_eq, trimEndWhile_eq_rdropWhile, List.rdropWhile_eq_self_iff]
  intro hne
  rw [h.stop _ (List.getLast?_eq_some_getLast hne)]
  simp

/-- A text between two characters that are no white space has nothing to trim. -/
theorem trimmed_enclosed {a b : Char} (ha : isSpace a = false) (hb : isSpace b = false)
    (s : List Char) : Trimmed (a :: s ++ [b]) where
  start := by
    intro c hc
    cases hc
    exact ha
  stop := by
    intro c hc
    rw [List.getLast?_concat] at hc
    cases hc
    exact hb

end ProtoSchema.Text
