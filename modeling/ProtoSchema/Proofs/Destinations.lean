import ProtoSchema.Proofs.Delivery
import ProtoSchema.Proofs.Filling

/-!
# Where a schema goes if no file is named

The file name is then taken from the schema, and a schema may call itself what it likes. Still the
file is in the directory (`pathFor_inside`): its name ends in a suffix with a dot, and before that
it has none, so that no part of it can stand for the directory itself or the one above. Slashes in
it only lead further down.

A path is cleaned part by part, so what is done for the directory is not touched by parts that come
after it, as long as these are names (`cleanParts_append`).
-/

namespace ProtoSchema.Files.Path

open Text

/-! ## Parts of paths -/

/-- A part that is the name of something in a directory. -/
structure IsNamed (part : List Char) : Prop where
  nonempty : part ≠ []
  unslashed : '/' ∉ part
  ne_here : part ≠ here
  ne_above : part ≠ above

/-- The parts of a path that are not empty. -/
def names (path : List Char) : List (List Char) := (parts path).filter (· ≠ [])

/-- A place below a directory that is given by a clean path. -/
def under (directory : List Char) (below : List (List Char)) : List Char :=
  if directory = here then join ['/'] below
  else if directory = ['/'] then '/' :: join ['/'] below
  else directory ++ '/' :: join ['/'] below

theorem unslashed_of_mem_parts {path part : List Char} (h : part ∈ parts path) : '/' ∉ part := by
  intro hc
  exact absurd (mem_of_mem_cut h hc).2 (by decide)

theorem parts_append (directory name : List Char) :
    parts (directory ++ '/' :: name) = parts directory ++ parts name :=
  cut_append_cons (by decide) directory name

theorem isRooted_append {directory : List Char} (h : directory ≠ []) (name : List Char) :
    isRooted (directory ++ name) = isRooted directory := by
  unfold isRooted
  rw [List.head?_append_of_ne_nil _ h]

/-- What a cleaned path is made of: parts that are not empty, do not stand for the directory itself,
and hold no slash. -/
def IsClean (part : List Char) : Prop := part ≠ [] ∧ part ≠ here ∧ '/' ∉ part

theorem isClean_addPart {rooted : Bool} {clean : List (List Char)} {part : List Char}
    (hclean : ∀ p ∈ clean, IsClean p) (hpart : '/' ∉ part) :
    ∀ p ∈ addPart rooted clean part, IsClean p := by
  have habove : IsClean above := ⟨by decide, by decide, by decide⟩
  unfold addPart
  split
  · exact hclean
  · rename_i hskip
    simp only [Bool.or_eq_true, decide_eq_true_eq, not_or] at hskip
    split
    · split
      · split
        · exact hclean
        · simpa using habove
      · rename_i last rest
        split
        · intro p hp
          rcases List.mem_cons.mp hp with rfl | hp
          · exact habove
          · exact hclean p hp
        · exact fun p hp => hclean p (List.mem_cons_of_mem last hp)
    · intro p hp
      rcases List.mem_cons.mp hp with rfl | hp
      · exact ⟨hskip.1, hskip.2, hpart⟩
      · exact hclean p hp

theorem isClean_of_mem_cleanParts {path part : List Char} (h : part ∈ cleanParts path) :
    IsClean part := by
  have hfold (ps : List (List Char)) (clean : List (List Char)) (hps : ∀ p ∈ ps, '/' ∉ p)
      (hclean : ∀ p ∈ clean, IsClean p) :
      ∀ p ∈ ps.foldl (addPart (isRooted path)) clean, IsClean p := by
    induction ps generalizing clean with
    | nil => exact hclean
    | cons q qs ih =>
      exact ih _ (fun p hp => hps p (List.mem_cons_of_mem q hp))
        (isClean_addPart hclean (hps q List.mem_cons_self))
  refine hfold (parts path) [] (fun p hp => unslashed_of_mem_parts hp) (by simp) part ?_
  exact List.mem_reverse.mp h

/-- Names are added to what is clean as they are; empty parts are left out. -/
theorem foldl_addPart {rooted : Bool} {ps : List (List Char)} (h : ∀ p ∈ ps, p ≠ here ∧ p ≠ above)
    (clean : List (List Char)) :
    ps.foldl (addPart rooted) clean = (ps.filter (· ≠ [])).reverse ++ clean := by
  induction ps generalizing clean with
  | nil => rfl
  | cons p ps ih =>
    obtain ⟨hhere, habove⟩ := h p List.mem_cons_self
    rw [List.foldl_cons, ih fun q hq => h q (List.mem_cons_of_mem p hq)]
    by_cases hp : p = []
    · simp [addPart, hp]
    · simp [addPart, hp, hhere, habove]

theorem cleanParts_append {directory name : List Char} (hdirectory : directory ≠ [])
    (hname : ∀ p ∈ parts name, p ≠ here ∧ p ≠ above) :
    cleanParts (directory ++ '/' :: name) = cleanParts directory ++ names name := by
  unfold cleanParts names
  rw [isRooted_append hdirectory, parts_append, List.foldl_append, foldl_addPart hname]
  simp

theorem clean_of_rooted {path : List Char} (h : isRooted path = true) :
    clean path = '/' :: join ['/'] (cleanParts path) := by
  rw [clean, if_pos h]

theorem clean_of_parts {path : List Char} (h : isRooted path = false) (hne : cleanParts path ≠ []) :
    clean path = join ['/'] (cleanParts path) := by
  rw [clean, if_neg (by rw [h]; simp)]
  split
  · rename_i hnil
    exact absurd hnil hne
  · rfl

theorem clean_of_no_parts {path : List Char} (h : isRooted path = false)
    (hnil : cleanParts path = []) : clean path = here := by
  rw [clean, if_neg (by rw [h]; simp), hnil]

/-- Clean parts put together are neither nothing, nor the directory itself, nor the root. -/
theorem join_ne_of_isClean {ps : List (List Char)} (hne : ps ≠ []) (h : ∀ p ∈ ps, IsClean p) :
    join ['/'] ps ≠ [] ∧ join ['/'] ps ≠ here ∧ join ['/'] ps ≠ ['/'] := by
  obtain ⟨p, qs, rfl⟩ := List.exists_cons_of_ne_nil hne
  obtain ⟨hp, hhere, hslash⟩ := h p List.mem_cons_self
  cases qs with
  | nil =>
    refine ⟨hp, hhere, fun heq => hslash ?_⟩
    rw [show p = ['/'] from heq]
    exact List.mem_singleton_self '/'
  | cons q qs =>
    -- there are two characters at least: one of the first part, and the slash after it
    have hlength : 2 ≤ (join ['/'] (p :: q :: qs)).length := by
      have hpos := List.length_pos_iff.mpr hp
      rw [join_cons_cons, List.length_append, List.length_cons]
      omega
    have hshort {short : List Char} (hs : short.length < 2) : join ['/'] (p :: q :: qs) ≠ short := by
      intro heq
      rw [heq] at hlength
      omega
    exact ⟨hshort (by decide), hshort (by decide), hshort (by decide)⟩

/-- Cleaning a directory and names below it cleans the directory and leaves the names. -/
theorem clean_append {directory name : List Char} (hdirectory : directory ≠ [])
    (hname : ∀ p ∈ parts name, p ≠ here ∧ p ≠ above) (hne : names name ≠ []) :
    clean (directory ++ '/' :: name) = under (clean directory) (names name) := by
  have hparts := cleanParts_append hdirectory hname
  have hrooted := isRooted_append hdirectory ('/' :: name)
  have hpartsne : cleanParts directory ++ names name ≠ [] := by simp [hne]
  unfold under
  by_cases hnil : cleanParts directory = []
  · rw [hnil, List.nil_append] at hparts
    cases hroot : isRooted directory with
    | true =>
      rw [clean_of_rooted (hrooted.trans hroot), clean_of_rooted hroot, hparts, hnil]
      rfl
    | false =>
      rw [clean_of_parts (hrooted.trans hroot) (hparts ▸ hne), clean_of_no_parts hroot hnil, hparts,
        if_pos rfl]
  · obtain ⟨hempty, hhere, hslash⟩ :=
      join_ne_of_isClean hnil fun p hp => isClean_of_mem_cleanParts hp
    cases hroot : isRooted directory with
    | true =>
      rw [clean_of_rooted (hrooted.trans hroot), clean_of_rooted hroot, hparts,
        if_neg (by simp [here]), if_neg (by simpa using hempty), join_append hnil hne]
      rfl
    | false =>
      rw [clean_of_parts (hrooted.trans hroot) (hparts ▸ hpartsne), clean_of_parts hroot hnil,
        hparts, if_neg hhere, if_neg hslash, join_append hnil hne]

theorem isNamed_of_mem_names {name part : List Char}
    (h : ∀ p ∈ parts name, p ≠ here ∧ p ≠ above) (hpart : part ∈ names name) : IsNamed part := by
  obtain ⟨hmem, hne⟩ := List.mem_filter.mp hpart
  obtain ⟨hhere, habove⟩ := h part hmem
  exact ⟨by simpa using hne, unslashed_of_mem_parts hmem, hhere, habove⟩

end ProtoSchema.Files.Path

namespace ProtoSchema.Proto

open Text Files

/-! ## The name of the file -/

theorem ChoosesStem.nonempty {names : List String} {stem : String} (h : ChoosesStem names stem) :
    stem ≠ "" := by
  induction h with
  | none => decide
  | first _ hne => exact hne
  | later _ _ ih => exact ih

theorem ChoosesStem.undotted {names : List String} {stem : String} (h : ChoosesStem names stem) :
    '.' ∉ stem.toList := by
  induction h with
  | none => decide
  | first hsegment _ => exact hsegment.undotted
  | later _ _ ih => exact ih

/-- The parts of a name that has no dot but in its suffix: the last one has the suffix, and the
others have no dot. -/
theorem exists_parts_of_undotted {stem : List Char} (h : '.' ∉ stem) :
    ∃ front last, Path.parts (stem ++ ".proto".toList) = front ++ [last ++ ".proto".toList] ∧
      ∀ part ∈ front, '.' ∉ part := by
  have hsuffix {back : List Char} (hback : '/' ∉ back) :
      Path.parts (back ++ ".proto".toList) = [back ++ ".proto".toList] := by
    refine cut_eq_singleton fun c hc => ?_
    rw [beq_eq_false_iff_ne]
    rintro rfl
    rcases List.mem_append.mp hc with hc | hc
    · exact hback hc
    · exact absurd hc (by decide)
  rcases exists_last_split '/' stem with hslash | ⟨front, back, rfl, hback⟩
  · exact ⟨[], stem, hsuffix hslash, by simp⟩
  · refine ⟨Path.parts front, back, ?_, fun part hpart hdot => h ?_⟩
    · rw [List.append_assoc, List.cons_append, Path.parts_append, hsuffix hback]
    · exact List.mem_append_left _ (mem_of_mem_cut hpart hdot).1

/-- No part of such a name stands for a directory that is already there. -/
theorem ne_dots_of_mem_parts {stem : List Char} (h : '.' ∉ stem) :
    ∀ part ∈ Path.parts (stem ++ ".proto".toList), part ≠ Path.here ∧ part ≠ Path.above := by
  obtain ⟨front, last, hparts, hfront⟩ := exists_parts_of_undotted h
  intro part hpart
  rw [hparts] at hpart
  rcases List.mem_append.mp hpart with hpart | hpart
  · have hdot := hfront part hpart
    constructor
    · rintro rfl
      exact hdot (by decide)
    · rintro rfl
      exact hdot (by decide)
  · rw [List.mem_singleton.mp hpart]
    have hlength : 6 ≤ (last ++ ".proto".toList).length := by simp
    constructor
    · intro heq
      rw [heq] at hlength
      exact absurd hlength (by decide)
    · intro heq
      rw [heq] at hlength
      exact absurd hlength (by decide)

theorem names_ne_nil_of_undotted {stem : List Char} (h : '.' ∉ stem) :
    Path.names (stem ++ ".proto".toList) ≠ [] := by
  obtain ⟨front, last, hparts, -⟩ := exists_parts_of_undotted h
  rw [Path.names, hparts, List.filter_append]
  simp

/-! ## The path of the file -/

/-- If no file is named, the file is called after the package or the namespace, with nothing but the
suffix behind a dot, and it is inside the directory: its path is that of the directory, cleaned, and
below it one name at least, none of which stands for a directory that is already there. A delivery
that succeeds has written this file. -/
theorem pathFor_inside (directory : String) (o : Options) (s : Schema) :
    let d : Destination := { directory }
    let base := if directory = "" then "./proto" else directory
    ∃ stem below, ChoosesStem [o.package, s.space.name] stem ∧ stem ≠ "" ∧ '.' ∉ stem.toList ∧
      d.filenameFor o s = stem ++ ".proto" ∧
      below = Path.names (stem ++ ".proto").toList ∧ below ≠ [] ∧
      (∀ part ∈ below, Path.IsNamed part) ∧
      (d.pathFor o s).toList = Path.under (Path.clean base.toList) below ∧
      ∀ fs after, deliverFile o s d fs = (after, none) →
        ∃ text, render o s = .ok text ∧ after.readFile (d.pathFor o s) = .ok text := by
  intro d base
  have hstem := choosesStem_defaultStem [o.package, s.space.name]
  have hundotted := hstem.undotted
  have hbase : d.directoryOrDefault = base := d.directoryOrDefault_eq
  have hbasene : base ≠ "" := by
    by_cases hdirectory : directory = ""
    · simp [base, hdirectory]
    · simp [base, hdirectory]
  have hname : d.filenameFor o s = defaultStem [o.package, s.space.name] ++ ".proto" := rfl
  have hdots := ne_dots_of_mem_parts hundotted
  have hnames := names_ne_nil_of_undotted hundotted
  rw [← String.toList_append] at hdots hnames
  refine ⟨_, _, hstem, hstem.nonempty, hundotted, rfl, rfl, hnames,
    fun part hpart => Path.isNamed_of_mem_names hdots hpart, ?_, fun fs after hdeliver => ?_⟩
  · have hbasechars : base.toList ≠ [] := by simpa using hbasene
    rw [Destination.pathFor, hbase, Path.toList_append hbasene (by simp [hname])]
    exact Path.clean_append hbasechars hdots hnames
  · have hdelivers := delivers_deliverFile o s d fs
    rw [hdeliver] at hdelivers
    cases hdelivers with
    | written hrender _ _ hwrite =>
      obtain ⟨_, _, hfind, _⟩ := FileSystem.exists_of_writeFile hwrite
      exact ⟨_, hrender, FileSystem.readFile_of_find hfind⟩

-- Slashes lead further down; the dots before the last one are cut off with what stands before them.
example : Path.append "a/../../out/" (defaultFilename ["../../b//c", "x"]) = "../out/b/c.proto" := by
  decide +kernel

end ProtoSchema.Proto
