import ProtoSchema.Text.Case

/-!
# Raised words

What `toPascal` gives has no separators, and its first character is in upper case. So it is left as
it is when it is raised again, also with a further word behind it (`toPascal_append`). That rests on
the table of upper-case forms: none of them has another upper-case form (`toUpper_toUpper`), and
none is a separator.

The table is far too large to be gone through character by character. Its entries are runs of code
points, and two runs have nothing in common if one ends before the other starts, or if one has only
even members and the other only odd ones (`Run.apart`). Of each table only the first entry belongs to
ASCII, where they are given by arithmetic (`isUpper_iff_of_ascii`, `toNat_toUpper_of_ascii`).
-/

namespace ProtoSchema.Text

/-! ## Runs of code points -/

/-- Whether all members of the run are even or all are odd. -/
def Run.alternates (r : Run) : Bool := r.2.2 % 2 == 0 || r.1 == r.2.1

/-- Whether two runs can be seen to have no member in common. -/
def Run.apart (r s : Run) : Bool :=
  r.2.1.blt s.1 || s.2.1.blt r.1 || (r.alternates && s.alternates && (r.1 + s.1) % 2 == 1)

theorem Run.contains_iff {r : Run} {n : Nat} :
    r.contains n = true ↔ r.1 ≤ n ∧ n ≤ r.2.1 ∧ (n - r.1) % r.2.2 = 0 := by
  simp [contains, and_assoc]

theorem Run.mod_two_of_alternates {r : Run} {n : Nat} (h : r.alternates = true)
    (hn : r.contains n = true) : n % 2 = r.1 % 2 := by
  obtain ⟨hle, hge, hstep⟩ := contains_iff.mp hn
  simp only [alternates, Bool.or_eq_true, beq_iff_eq] at h
  rcases h with heven | hone
  · obtain ⟨k, hk⟩ := Nat.dvd_of_mod_eq_zero heven
    obtain ⟨j, hj⟩ := Nat.dvd_of_mod_eq_zero hstep
    have hn : n = r.1 + 2 * (k * j) := by
      rw [hk, Nat.mul_assoc] at hj
      omega
    omega
  · have hn : n = r.1 := by omega
    rw [hn]

theorem Run.not_contains_of_apart {r s : Run} {n : Nat} (h : r.apart s = true)
    (hr : r.contains n = true) : s.contains n = false := by
  rw [← Bool.not_eq_true]
  intro hs
  obtain ⟨hr₁, hr₂, -⟩ := contains_iff.mp hr
  obtain ⟨hs₁, hs₂, -⟩ := contains_iff.mp hs
  simp only [apart, Bool.or_eq_true, Bool.and_eq_true, Nat.blt_eq, beq_iff_eq] at h
  rcases h with (hlt | hlt) | ⟨⟨hra, hsa⟩, hodd⟩
  · omega
  · omega
  · have hmr := mod_two_of_alternates hra hr
    have hms := mod_two_of_alternates hsa hs
    omega

/-! ## Images of a map -/

/-- The code points that a shift moves. -/
def Shift.source (s : Shift) : Run := (s.1, s.2.1, s.2.2.1)

/-- The code points to which a shift moves them. -/
def Shift.image (s : Shift) : Run :=
  (Int.toNat (s.1 + s.2.2.2), Int.toNat (s.2.1 + s.2.2.2), s.2.2.1)

/-- Whether a shift moves characters to characters. -/
def Shift.proper (s : Shift) : Bool :=
  0 ≤ s.1 + s.2.2.2 &&
    (s.image.2.1 < 0xd800 || (0xdfff < s.image.1 && s.image.2.1 < 0x110000))

theorem Shift.image_contains {s : Shift} {n : Nat} (hs : s.proper = true)
    (hn : s.source.contains n = true) : s.image.contains (Int.toNat (n + s.2.2.2)) = true := by
  obtain ⟨hle, hge, hstep⟩ := Run.contains_iff.mp hn
  simp only [proper, Bool.and_eq_true, decide_eq_true_eq] at hs
  refine Run.contains_iff.mpr ⟨?_, ?_, ?_⟩
  · simp only [image, source] at hle ⊢
    omega
  · simp only [image, source] at hge ⊢
    omega
  · -- the distance from the first member is the same before and after
    have hdistance : Int.toNat (n + s.2.2.2) - s.image.1 = n - s.source.1 := by
      simp only [image, source] at hle ⊢
      omega
    rw [hdistance]
    exact hstep

theorem toNat_ofNat {n : Nat} (h : n < 0xd800 ∨ 0xdfff < n ∧ n < 0x110000) :
    (Char.ofNat n).toNat = n := by
  have hvalid : n.isValidChar := h
  rw [Char.ofNat, dif_pos hvalid]
  rfl

/-- A character stays as it is, or it goes where some shift of the map leads. -/
theorem CharMap.apply_eq_or_image {m : CharMap} (hm : ∀ s ∈ m, Shift.proper s = true) (c : Char) :
    m.apply c = c ∨ ∃ s ∈ m, (Shift.image s).contains (m.apply c).toNat = true := by
  unfold apply
  split
  · rename_i s hfind
    have hs := hm s (List.mem_of_find?_eq_some hfind)
    have hsource : (Shift.source s).contains c.toNat = true :=
      List.find?_some (p := fun s : Shift => s.source.contains c.toNat) hfind
    have himage := Shift.image_contains hs hsource
    refine .inr ⟨s, List.mem_of_find?_eq_some hfind, ?_⟩
    have hvalid := hs
    obtain ⟨hle, hge, -⟩ := Run.contains_iff.mp himage
    simp only [Shift.proper, Bool.and_eq_true, Bool.or_eq_true, decide_eq_true_eq] at hvalid
    rw [toNat_ofNat (by omega)]
    exact himage
  · exact .inl rfl

/-- Whether no shift of the map leads into the set. -/
def CharMap.avoids (m : CharMap) (t : CharSet) : Bool :=
  m.all fun s => Shift.proper s && t.all fun r => (Shift.image s).apart r

theorem CharMap.apply_eq_or_not_has {m : CharMap} {t : CharSet} (h : m.avoids t = true)
    (c : Char) : m.apply c = c ∨ t.has (m.apply c) = false := by
  simp only [avoids, List.all_eq_true, Bool.and_eq_true] at h
  rcases apply_eq_or_image (fun s hs => (h s hs).1) c with hself | ⟨s, hs, himage⟩
  · exact .inl hself
  · refine .inr (List.any_eq_false.mpr fun r hr => ?_)
    rw [Run.not_contains_of_apart ((h s hs).2 r hr) himage]
    exact Bool.false_ne_true

theorem CharMap.apply_of_not_source {m : CharMap} {c : Char}
    (h : CharSet.has (m.map Shift.source) c = false) : m.apply c = c := by
  have hnone : m.find? (fun s => Run.contains (s.1, s.2.1, s.2.2.1) c.toNat) = none := by
    rw [List.find?_eq_none]
    intro s hs
    exact List.any_eq_false.mp h _ (List.mem_map_of_mem hs)
  rw [apply, hnone]

/-- A map that never leads to where it starts from does nothing the second time. -/
theorem CharMap.apply_apply {m : CharMap} (h : m.avoids (m.map Shift.source) = true) (c : Char) :
    m.apply (m.apply c) = m.apply c := by
  rcases apply_eq_or_not_has h c with hself | hnot
  · rw [hself, hself]
  · exact apply_of_not_source hnot

/-! ## Upper-case forms -/

theorem toUpper_toUpper (c : Char) : toUpper (toUpper c) = toUpper c :=
  CharMap.apply_apply (by decide +kernel) c

/-- The separators as a set of characters. -/
def separators : CharSet := (0x2d, 0x2e, 1) :: (0x5f, 0x5f, 1) :: whiteSpace

theorem isSeparator_eq_has (c : Char) : isSeparator c = separators.has c := by
  have heq (d : Char) : c = d ↔ c.toNat = d.toNat := by
    rw [Char.ext_iff, ← UInt32.toNat_inj]
    rfl
  have hdash : '-'.toNat = 0x2d := rfl
  have hdot : '.'.toNat = 0x2e := rfl
  have hline : '_'.toNat = 0x5f := rfl
  have hpoints : (c = '_' ∨ c = '-') ∨ c = '.' ↔
      (0x2d ≤ c.toNat ∧ c.toNat ≤ 0x2e ∧ (c.toNat - 0x2d) % 1 = 0) ∨
        (0x5f ≤ c.toNat ∧ c.toNat ≤ 0x5f ∧ (c.toNat - 0x5f) % 1 = 0) := by
    rw [heq, heq, heq, hdash, hdot, hline]
    omega
  rw [Bool.eq_iff_iff]
  simp only [isSeparator, separators, CharSet.has, isSpace, List.any_cons, Bool.or_eq_true,
    Run.contains_iff, beq_iff_eq, hpoints, or_assoc]

/-- No separator comes of a map that does not lead to one. -/
theorem isSeparator_apply {m : CharMap} (hm : m.avoids separators = true) {c : Char}
    (h : isSeparator c = false) : isSeparator (m.apply c) = false := by
  rcases CharMap.apply_eq_or_not_has hm c with hself | hnot
  · rw [hself]
    exact h
  · rw [isSeparator_eq_has]
    exact hnot

theorem isSeparator_toUpper {c : Char} (h : isSeparator c = false) :
    isSeparator (toUpper c) = false :=
  isSeparator_apply (by decide +kernel) h

theorem isSeparator_toLower {c : Char} (h : isSeparator c = false) :
    isSeparator (toLower c) = false :=
  isSeparator_apply (by decide +kernel) h

/-! ## ASCII -/

theorem Run.not_contains_of_lt {r : Run} {n : Nat} (h : n < r.1) : r.contains n = false := by
  rw [← Bool.not_eq_true, contains_iff]
  omega

theorem Run.contains_one_iff {first last n : Nat} :
    Run.contains (first, last, 1) n = true ↔ first ≤ n ∧ n ≤ last := by
  rw [contains_iff, Nat.mod_one]
  exact ⟨fun h => ⟨h.1, h.2.1⟩, fun h => ⟨h.1, h.2, rfl⟩⟩

/-- Of a set whose other runs start beyond ASCII only the first run counts there. -/
theorem CharSet.has_iff_of_ascii {s : CharSet} {first last : Nat}
    (hs : s = (first, last, 1) :: s.tail) (hlater : s.tail.all (fun r => 128 ≤ r.1) = true)
    {c : Char} (hc : c.toNat < 128) : s.has c = true ↔ first ≤ c.toNat ∧ c.toNat ≤ last := by
  have hrest : s.tail.any (fun r => r.contains c.toNat) = false := by
    rw [List.any_eq_false]
    intro r hr
    have hstart : 128 ≤ r.1 := by simpa using List.all_eq_true.mp hlater r hr
    rw [Run.not_contains_of_lt (by omega)]
    exact Bool.false_ne_true
  rw [CharSet.has, hs, List.any_cons, hrest, Bool.or_false, Run.contains_one_iff]

theorem CharMap.toNat_apply_of_ascii {m : CharMap} {first last : Nat} {distance : Int}
    (hm : m = (first, last, 1, distance) :: m.tail)
    (hlater : m.tail.all (fun s => 128 ≤ s.1) = true)
    (hhigh : last + distance < 128) {c : Char} (hc : c.toNat < 128) :
    (m.apply c).toNat =
      if first ≤ c.toNat ∧ c.toNat ≤ last then Int.toNat (c.toNat + distance) else c.toNat := by
  have hrest : m.tail.find? (fun s => Run.contains (s.1, s.2.1, s.2.2.1) c.toNat) = none := by
    rw [List.find?_eq_none]
    intro s hs
    have hstart : 128 ≤ s.1 := by simpa using List.all_eq_true.mp hlater s hs
    rw [Run.not_contains_of_lt (by dsimp only; omega)]
    exact Bool.false_ne_true
  rw [apply, hm, List.find?_cons, hrest]
  by_cases hmoved : first ≤ c.toNat ∧ c.toNat ≤ last
  · rw [Run.contains_one_iff.mpr hmoved, if_pos hmoved]
    exact toNat_ofNat (by dsimp only; omega)
  · have hnot : Run.contains (first, last, 1) c.toNat = false := by
      rw [← Bool.not_eq_true, Run.contains_one_iff]
      exact hmoved
    rw [hnot, if_neg hmoved]

/-- Of each table only the first entry belongs to ASCII. -/
theorem tables_beyond_ascii :
    upperLetters.tail.all (fun r => 128 ≤ r.1) = true ∧
      lowerLetters.tail.all (fun r => 128 ≤ r.1) = true ∧
      decimalDigits.tail.all (fun r => 128 ≤ r.1) = true ∧
      upperMap.tail.all (fun s => 128 ≤ s.1) = true ∧
      lowerMap.tail.all (fun s => 128 ≤ s.1) = true := by
  decide +kernel

section Ascii

variable {c : Char} (hc : c.toNat < 128)

include hc

theorem isUpper_iff_of_ascii : isUpper c = true ↔ 65 ≤ c.toNat ∧ c.toNat ≤ 90 :=
  CharSet.has_iff_of_ascii rfl tables_beyond_ascii.1 hc

theorem isLower_iff_of_ascii : isLower c = true ↔ 97 ≤ c.toNat ∧ c.toNat ≤ 122 :=
  CharSet.has_iff_of_ascii rfl tables_beyond_ascii.2.1 hc

theorem isDigit_iff_of_ascii : isDigit c = true ↔ 48 ≤ c.toNat ∧ c.toNat ≤ 57 :=
  CharSet.has_iff_of_ascii rfl tables_beyond_ascii.2.2.1 hc

theorem toNat_toUpper_of_ascii :
    (toUpper c).toNat = if 97 ≤ c.toNat ∧ c.toNat ≤ 122 then c.toNat - 32 else c.toNat := by
  have happly := CharMap.toNat_apply_of_ascii (m := upperMap) rfl tables_beyond_ascii.2.2.2.1
    (by decide) hc
  rw [toUpper, happly]
  split <;> omega

theorem toNat_toLower_of_ascii :
    (toLower c).toNat = if 65 ≤ c.toNat ∧ c.toNat ≤ 90 then c.toNat + 32 else c.toNat := by
  have happly := CharMap.toNat_apply_of_ascii (m := lowerMap) rfl tables_beyond_ascii.2.2.2.2
    (by decide) hc
  rw [toLower, happly]
  split <;> omega

end Ascii

/-! ## Raised names -/

theorem not_isSeparator_of_mem_pascalFrom {start : Bool} {s : List Char} {c : Char}
    (h : c ∈ pascalFrom start s) : isSeparator c = false := by
  induction s generalizing start with
  | nil => cases h
  | cons d r ih =>
    rw [pascalFrom] at h
    split at h
    · exact ih h
    · rename_i hd
      rw [Bool.not_eq_true] at hd
      rcases List.mem_cons.mp h with rfl | hr
      · split
        · exact isSeparator_toUpper hd
        · exact hd
      · exact ih hr

/-- The first character of a raised name is an upper-case form. -/
theorem toUpper_of_mem_head_pascal {s : List Char} {c : Char} (h : c ∈ (pascal s).head?) :
    toUpper c = c := by
  unfold pascal at h
  induction s with
  | nil => cases h
  | cons d r ih =>
    rw [pascalFrom] at h
    split at h
    · exact ih h
    · cases h
      exact toUpper_toUpper d

theorem pascalFrom_false_eq_self {s : List Char} (h : ∀ c ∈ s, isSeparator c = false) :
    pascalFrom false s = s := by
  induction s with
  | nil => rfl
  | cons c r ih =>
    rw [pascalFrom, if_neg (by simp [h c (by simp)]), ih fun d hd => h d (by simp [hd])]
    rfl

theorem pascal_eq_self {s : List Char} (h : ∀ c ∈ s, isSeparator c = false)
    (hhead : ∀ c ∈ s.head?, toUpper c = c) : pascal s = s := by
  cases s with
  | nil => rfl
  | cons c r =>
    rw [pascal, pascalFrom, if_neg (by simp [h c (by simp)]), if_pos rfl, hhead c rfl,
      pascalFrom_false_eq_self fun d hd => h d (by simp [hd])]

theorem pascal_append {s w : List Char} (hw : ∀ c ∈ w, isSeparator c = false)
    (hhead : ∀ c ∈ w.head?, toUpper c = c) : pascal (pascal s ++ w) = pascal s ++ w := by
  refine pascal_eq_self (fun c hc => ?_) (fun c hc => ?_)
  · rcases List.mem_append.mp hc with hs | hc
    · exact not_isSeparator_of_mem_pascalFrom hs
    · exact hw c hc
  · rw [List.head?_append] at hc
    cases hs : (pascal s).head? with
    | some d =>
      rw [hs] at hc
      cases hc
      exact toUpper_of_mem_head_pascal hs
    | none =>
      rw [hs] at hc
      exact hhead c hc

/-- A raised name with a raised word behind it is raised already. -/
theorem toPascal_append {w : String} (hw : w.toList.all (fun c => !isSeparator c) = true)
    (hhead : w.toList.head?.all (fun c => toUpper c == c) = true) (name : String) :
    toPascal (toPascal name ++ w) = toPascal name ++ w := by
  have hchars : ∀ c ∈ w.toList, isSeparator c = false := by simpa using hw
  have hfirst : ∀ c ∈ w.toList.head?, toUpper c = c := by
    intro c hc
    rw [Option.mem_def.mp hc] at hhead
    exact beq_iff_eq.mp hhead
  simp only [toPascal, String.toList_append, String.toList_ofList]
  rw [pascal_append hchars hfirst, String.ofList_append, String.ofList_toList]

end ProtoSchema.Text
