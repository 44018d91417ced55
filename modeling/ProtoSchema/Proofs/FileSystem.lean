import ProtoSchema.Files.FileSystem
import ProtoSchema.Proofs.Results

/-!
# What is changed in a file system

A path is followed through directories. No operation takes a directory away (`Keeps`), so a path
that leads somewhere still does after any operation (`Keeps.resolve`), and what was written at it is
found at it. This gives the frames of the operations:

* writing a file changes the place to which its path leads, and no other (`exists_of_writeFile`);
* making directories changes nothing that was there, and what is new are directories, each named by
  a leading part of the path (`grows_makeDirectories`).
-/

namespace ProtoSchema.Files

namespace FileSystem

/-! ## Entries -/

theorem lookup_setEntry_self (place : Place) (e : Entry) (entries : List (Place × Entry)) :
    (setEntry place e entries).lookup place = some e := by
  induction entries with
  | nil => simp [setEntry]
  | cons head rest ih =>
    obtain ⟨p, old⟩ := head
    rw [setEntry]
    by_cases hp : p = place
    · simp [hp]
    · have hne : (place == p) = false := beq_eq_false_iff_ne.mpr (Ne.symm hp)
      rw [if_neg hp, List.lookup_cons, hne]
      exact ih

theorem lookup_setEntry_ne {place other : Place} (h : other ≠ place) (e : Entry)
    (entries : List (Place × Entry)) :
    (setEntry place e entries).lookup other = entries.lookup other := by
  have hne : (other == place) = false := beq_eq_false_iff_ne.mpr h
  induction entries with
  | nil => simp [setEntry, List.lookup_cons, hne]
  | cons head rest ih =>
    obtain ⟨p, old⟩ := head
    rw [setEntry]
    by_cases hp : p = place
    · rw [if_pos hp, List.lookup_cons, List.lookup_cons, hp, hne]
    · rw [if_neg hp, List.lookup_cons, List.lookup_cons, ih]

theorem setEntry_of_lookup {place : Place} {e : Entry} {entries : List (Place × Entry)}
    (h : entries.lookup place = some e) : setEntry place e entries = entries := by
  induction entries with
  | nil => cases h
  | cons head rest ih =>
    obtain ⟨p, old⟩ := head
    rw [List.lookup_cons] at h
    rw [setEntry]
    by_cases hp : p = place
    · subst hp
      rw [beq_self_eq_true] at h
      cases h
      rw [if_pos rfl]
    · have hne : (place == p) = false := beq_eq_false_iff_ne.mpr (Ne.symm hp)
      rw [hne] at h
      rw [if_neg hp, ih h]

theorem entry?_set_self {place : Place} (h : place ≠ []) (fs : FileSystem) (e : Entry) :
    entry? (fs.set place e) place = some e := by
  unfold entry?
  rw [if_neg h]
  exact lookup_setEntry_self place e fs.entries

theorem entry?_set_ne {place other : Place} (h : other ≠ place) (fs : FileSystem) (e : Entry) :
    entry? (fs.set place e) other = fs.entry? other := by
  unfold entry?
  by_cases hroot : other = []
  · rw [if_pos hroot, if_pos hroot]
  · rw [if_neg hroot, if_neg hroot]
    exact lookup_setEntry_ne h e fs.entries

/-- Setting a place to what is there changes nothing. -/
theorem set_eq_self {fs : FileSystem} {place : Place} {e : Entry} (hne : place ≠ [])
    (h : fs.entry? place = some e) : fs.set place e = fs := by
  unfold entry? at h
  rw [if_neg hne] at h
  rw [set, setEntry_of_lookup h]

/-! ## Paths in file systems with more directories -/

/-- The directories of one file system are directories of another, and one works in the same. -/
structure Keeps (before after : FileSystem) : Prop where
  workplace : after.workplace = before.workplace
  directories : ∀ {place : Place} {mode : Nat},
    before.entry? place = some (.directory mode) → after.entry? place = some (.directory mode)

/-- A place where there is no directory can be set. -/
theorem keeps_set {fs : FileSystem} {place : Place}
    (h : ∀ mode, fs.entry? place ≠ some (.directory mode)) (e : Entry) :
    Keeps fs (fs.set place e) := by
  refine ⟨rfl, fun {other mode} hother => ?_⟩
  have hne : other ≠ place := by
    rintro rfl
    exact h mode hother
  rw [entry?_set_ne hne, hother]

theorem enter_eq_ok {fs : FileSystem} {place next : Place} {part : List Char} :
    fs.enter place part = .ok next ↔
      follow place part = .ok next ∧ ∃ mode, fs.entry? next = some (.directory mode) := by
  unfold enter
  rw [bind_eq_ok]
  constructor
  · rintro ⟨reached, hfollow, hentry⟩
    split at hentry
    · cases hentry
    · cases hentry
    · rename_i mode hreached
      cases hentry
      exact ⟨hfollow, mode, hreached⟩
  · rintro ⟨hfollow, mode, hentry⟩
    exact ⟨next, hfollow, by rw [hentry]; rfl⟩

theorem Keeps.enter {before after : FileSystem} (h : Keeps before after) {place next : Place}
    {part : List Char} (hnext : before.enter place part = .ok next) :
    after.enter place part = .ok next := by
  obtain ⟨hfollow, mode, hentry⟩ := enter_eq_ok.mp hnext
  exact enter_eq_ok.mpr ⟨hfollow, mode, h.directories hentry⟩

theorem Keeps.foldlM_enter {before after : FileSystem} (h : Keeps before after)
    {parts : List (List Char)} {start stop : Place}
    (hstop : parts.foldlM before.enter start = .ok stop) :
    parts.foldlM after.enter start = .ok stop := by
  induction parts generalizing start with
  | nil => exact hstop
  | cons part parts ih =>
    rw [List.foldlM_cons, bind_eq_ok] at hstop ⊢
    obtain ⟨next, hnext, hrest⟩ := hstop
    exact ⟨next, h.enter hnext, ih hrest⟩

/-- A path is followed in the same way if no directory is gone. -/
theorem Keeps.resolve {before after : FileSystem} (h : Keeps before after) {path : List Char}
    {ending : Ending} (hending : before.resolve path = .ok ending) :
    after.resolve path = .ok ending := by
  simp only [FileSystem.resolve, ite_throw_eq_ok, bind_eq_ok] at hending ⊢
  obtain ⟨hname, hempty, hlong, base, hbase, hrest⟩ := hending
  refine ⟨hname, hempty, hlong, base, ?_, hrest⟩
  rw [h.workplace]
  exact h.foldlM_enter hbase

/-- A path leads to a place. -/
def Leads (fs : FileSystem) (path : List Char) (ending : Ending) (place : Place) : Prop :=
  fs.resolve path = .ok ending ∧ follow ending.base ending.last = .ok place

theorem Keeps.leads {before after : FileSystem} (h : Keeps before after) {path : List Char}
    {ending : Ending} {place : Place} (hleads : before.Leads path ending place) :
    after.Leads path ending place :=
  ⟨h.resolve hleads.1, hleads.2⟩

theorem find_eq_directory {fs : FileSystem} {path : List Char} {place : Place} {mode : Nat} :
    fs.find path = .ok (place, .directory mode) ↔
      (∃ ending, fs.Leads path ending place) ∧ fs.entry? place = some (.directory mode) := by
  simp only [find, bind_eq_ok]
  constructor
  · rintro ⟨ending, hending, reached, hfollow, hentry⟩
    split at hentry
    · cases hentry
    · split at hentry <;> cases hentry
    · rename_i m hreached
      cases hentry
      exact ⟨⟨ending, hending, hfollow⟩, hreached⟩
  · rintro ⟨⟨ending, hending, hfollow⟩, hentry⟩
    exact ⟨ending, hending, place, hfollow, by rw [hentry]; rfl⟩

theorem find_of_file {fs : FileSystem} {path : List Char} {ending : Ending} {place : Place}
    {mode : Nat} {content : String} (hleads : fs.Leads path ending place)
    (hslash : ending.slash = false) (hentry : fs.entry? place = some (.file mode content)) :
    fs.find path = .ok (place, .file mode content) := by
  simp only [find, bind_eq_ok]
  refine ⟨ending, hleads.1, place, hleads.2, ?_⟩
  rw [hentry]
  simp only [hslash]
  rfl

theorem Keeps.find_directory {before after : FileSystem} (h : Keeps before after)
    {path : List Char} {place : Place} {mode : Nat}
    (hfind : before.find path = .ok (place, .directory mode)) :
    after.find path = .ok (place, .directory mode) := by
  obtain ⟨⟨ending, hleads⟩, hentry⟩ := find_eq_directory.mp hfind
  exact find_eq_directory.mpr ⟨⟨ending, h.leads hleads⟩, h.directories hentry⟩

/-- Where the last part of a path is a name, the path does not lead to the root. -/
theorem Leads.ne_nil {fs : FileSystem} {path : List Char} {ending : Ending} {place : Place}
    (h : fs.Leads path ending place) (hnamed : ending.isNamed = true) : place ≠ [] := by
  obtain ⟨-, hfollow⟩ := h
  simp only [Ending.isNamed, Bool.and_eq_true, decide_eq_true_eq] at hnamed
  simp only [follow, hnamed, decide_false, Bool.or_self, Bool.false_eq_true, if_false,
    ite_error_eq_ok] at hfollow
  obtain ⟨-, hplace⟩ := hfollow
  cases hplace
  simp

/-! ## Writing files -/

theorem placeFile_eq_ok {fs : FileSystem} {path : List Char} {place : Place} {old : Option Nat} :
    fs.placeFile path = .ok (place, old) ↔
      ∃ ending, fs.Leads path ending place ∧ ending.slash = false ∧ ending.isNamed = true ∧
        fs.permit place = .ok () ∧
        ((fs.entry? place = none ∧ old = none) ∨
          ∃ mode content, fs.entry? place = some (.file mode content) ∧ old = some mode) := by
  simp only [placeFile, bind_eq_ok, ite_throw_eq_ok, Bool.or_eq_true, Bool.not_eq_true',
    not_or, Bool.not_eq_true, Bool.not_eq_false]
  constructor
  · rintro ⟨ending, hending, ⟨hslash, hnamed⟩, reached, hfollow, hentry⟩
    split at hentry
    · cases hentry
    · rename_i mode content hreached
      obtain ⟨⟨⟩, hpermit, hplace⟩ := bind_eq_ok.mp hentry
      cases hplace
      exact ⟨ending, ⟨hending, hfollow⟩, hslash, hnamed, hpermit,
        .inr ⟨mode, content, hreached, rfl⟩⟩
    · rename_i hreached
      obtain ⟨⟨⟩, hpermit, hplace⟩ := bind_eq_ok.mp hentry
      cases hplace
      exact ⟨ending, ⟨hending, hfollow⟩, hslash, hnamed, hpermit, .inl ⟨hreached, rfl⟩⟩
  · rintro ⟨ending, ⟨hending, hfollow⟩, hslash, hnamed, hpermit, hentry⟩
    refine ⟨ending, hending, ⟨hslash, hnamed⟩, place, hfollow, ?_⟩
    rcases hentry with ⟨hnone, rfl⟩ | ⟨mode, content, hfile, rfl⟩
    · rw [hnone]
      exact bind_eq_ok.mpr ⟨(), hpermit, rfl⟩
    · rw [hfile]
      exact bind_eq_ok.mpr ⟨(), hpermit, rfl⟩

/-- A file that is written is found where its path leads. Nothing else is changed, no directory was
there, and writing it again makes no difference. -/
theorem exists_of_writeFile {fs after : FileSystem} {path content : String} {mode : Nat}
    (h : fs.writeFile path mode content = .ok after) :
    ∃ place m, after.find path.toList = .ok (place, .file m content) ∧
      (∀ other, other ≠ place → after.entry? other = fs.entry? other) ∧ Keeps fs after ∧
      after.writeFile path mode content = .ok after := by
  unfold writeFile at h
  split at h
  · cases h
  · rename_i place old hplace
    cases h
    obtain ⟨ending, hleads, hslash, hnamed, hpermit, hentry⟩ := placeFile_eq_ok.mp hplace
    have hne := hleads.ne_nil hnamed
    have hkeeps : Keeps fs (fs.set place (.file (old.getD mode) content)) := by
      refine keeps_set (fun m hdirectory => ?_) _
      rcases hentry with ⟨hnone, -⟩ | ⟨m', content', hfile, -⟩
      · rw [hnone] at hdirectory
        cases hdirectory
      · rw [hfile] at hdirectory
        cases hdirectory
    have hself := entry?_set_self hne fs (.file (old.getD mode) content)
    refine ⟨place, old.getD mode, find_of_file (hkeeps.leads hleads) hslash hself,
      fun other hother => entry?_set_ne hother fs _, hkeeps, ?_⟩
    have hagain : (fs.set place (.file (old.getD mode) content)).placeFile path.toList =
        .ok (place, some (old.getD mode)) :=
      placeFile_eq_ok.mpr ⟨ending, hkeeps.leads hleads, hslash, hnamed, hpermit,
        .inr ⟨_, content, hself, rfl⟩⟩
    unfold writeFile
    rw [hagain]
    exact congrArg Except.ok (set_eq_self hne hself)

theorem readFile_of_find {fs : FileSystem} {path content : String} {place : Place} {mode : Nat}
    (h : fs.find path.toList = .ok (place, .file mode content)) :
    fs.readFile path = .ok content := by
  unfold readFile
  rw [h]

/-! ## Making directories -/

/-- A leading part of a path: the path itself, or what stands before one of its slashes. -/
def IsLeading (lead path : List Char) : Prop :=
  ∃ rest, path = lead ++ rest ∧ (rest = [] ∨ rest.head? = some '/')

theorem IsLeading.refl (path : List Char) : IsLeading path path :=
  ⟨[], (List.append_nil path).symm, .inl rfl⟩

theorem IsLeading.trans {a b c : List Char} (hab : IsLeading a b) (hbc : IsLeading b c) :
    IsLeading a c := by
  obtain ⟨r, rfl, hr⟩ := hab
  obtain ⟨q, rfl, hq⟩ := hbc
  refine ⟨r ++ q, List.append_assoc a r q, ?_⟩
  cases r with
  | nil => exact hq
  | cons c r =>
    right
    rcases hr with hr | hr
    · cases hr
    · exact hr

theorem isLeading_parent {path p : List Char} (h : Path.parent? path = some p) :
    IsLeading p path := by
  unfold Path.parent? at h
  split at h
  · rename_i first c r hrest
    cases h
    have hfirst : first = '/' := by
      have hnot := List.head?_dropWhile_not (· != '/') (path.reverse.dropWhile (· == '/'))
      rw [hrest] at hnot
      simpa using hnot
    -- the path from its end: slashes, the last part, a slash, and the parent
    obtain ⟨slashes, hslashes⟩ := List.dropWhile_suffix (l := path.reverse) (· == '/')
    obtain ⟨last, hlast⟩ :=
      List.dropWhile_suffix (l := path.reverse.dropWhile (· == '/')) (· != '/')
    rw [hrest, hfirst] at hlast
    refine ⟨'/' :: (slashes ++ last).reverse, ?_, .inr rfl⟩
    rw [← List.reverse_reverse path, ← hslashes, ← hlast]
    simp
  · cases h

/-- The file system has grown by directories alone, each named by a leading part of a path. -/
structure Grows (before after : FileSystem) (path : List Char) (mode : Nat) : Prop where
  workplace : after.workplace = before.workplace
  changes : ∀ place, after.entry? place = before.entry? place ∨
    (before.entry? place = none ∧
      ∃ lead, IsLeading lead path ∧ after.find lead = .ok (place, .directory mode))

theorem Grows.refl (fs : FileSystem) (path : List Char) (mode : Nat) : Grows fs fs path mode :=
  ⟨rfl, fun _ => .inl rfl⟩

theorem Grows.keeps {before after : FileSystem} {path : List Char} {mode : Nat}
    (h : Grows before after path mode) : Keeps before after := by
  refine ⟨h.workplace, fun {place m} hdirectory => ?_⟩
  rcases h.changes place with hsame | ⟨hnone, -⟩
  · rw [hsame, hdirectory]
  · rw [hnone] at hdirectory
    cases hdirectory

/-- Files are neither made nor changed nor taken away. -/
theorem Grows.file_iff {before after : FileSystem} {path : List Char} {mode : Nat}
    (h : Grows before after path mode) (place : Place) (m : Nat) (content : String) :
    after.entry? place = some (.file m content) ↔ before.entry? place = some (.file m content) := by
  rcases h.changes place with hsame | ⟨hnone, lead, -, hfind⟩
  · rw [hsame]
  · rw [hnone, (find_eq_directory.mp hfind).2]
    simp

/-- What is done for a leading part of a path and then for the path. -/
theorem Grows.trans {a b c : FileSystem} {parent path : List Char} {mode : Nat}
    (hab : Grows a b parent mode) (hparent : IsLeading parent path) (hbc : Grows b c path mode) :
    Grows a c path mode := by
  refine ⟨hbc.workplace.trans hab.workplace, fun place => ?_⟩
  rcases hab.changes place with hsame | ⟨hnone, lead, hlead, hfind⟩
  · rw [← hsame]
    exact hbc.changes place
  · exact .inr ⟨hnone, lead, hlead.trans hparent, hbc.keeps.find_directory hfind⟩

/-- Besides a file that is written later only the directories are new. -/
theorem Grows.changes_of_write {before made after : FileSystem} {path : List Char} {mode : Nat}
    (h : Grows before made path mode) {target : Place}
    (hframe : ∀ place, place ≠ target → after.entry? place = made.entry? place)
    (hkeeps : Keeps made after) {place : Place} (hplace : place ≠ target) :
    after.entry? place = before.entry? place ∨ (before.entry? place = none ∧
      ∃ lead, IsLeading lead path ∧ after.find lead = .ok (place, .directory mode)) := by
  rcases h.changes place with hsame | ⟨hnone, lead, hlead, hfind⟩
  · exact .inl ((hframe place hplace).trans hsame)
  · exact .inr ⟨hnone, lead, hlead, hkeeps.find_directory hfind⟩

theorem grows_makeDirectory {fs after : FileSystem} {path : List Char} {mode : Nat}
    (h : fs.makeDirectory path mode = .ok after) :
    Grows fs after path mode ∧ ∃ place, after.find path = .ok (place, .directory mode) := by
  simp only [makeDirectory, bind_eq_ok, ite_throw_eq_ok, Bool.not_eq_true', Bool.not_eq_false] at h
  obtain ⟨ending, hending, hnamed, place, hfollow, hentry⟩ := h
  split at hentry
  · cases hentry
  · rename_i hnone
    obtain ⟨-, -, hafter⟩ := bind_eq_ok.mp hentry
    cases hafter
    have hleads : fs.Leads path ending place := ⟨hending, hfollow⟩
    have hne := hleads.ne_nil hnamed
    have hkeeps : Keeps fs (fs.set place (.directory mode)) := by
      refine keeps_set (fun m hdirectory => ?_) _
      rw [hnone] at hdirectory
      cases hdirectory
    have hfind : (fs.set place (.directory mode)).find path = .ok (place, .directory mode) :=
      find_eq_directory.mpr ⟨⟨ending, hkeeps.leads hleads⟩, entry?_set_self hne fs _⟩
    refine ⟨⟨rfl, fun other => ?_⟩, place, hfind⟩
    by_cases hother : other = place
    · subst hother
      exact .inr ⟨hnone, path, .refl path, hfind⟩
    · exact .inl (entry?_set_ne hother fs _)

theorem exists_of_isDirectory {fs : FileSystem} {path : List Char}
    (h : fs.isDirectory path = true) :
    ∃ place mode, fs.find path = .ok (place, .directory mode) := by
  unfold isDirectory at h
  split at h
  · rename_i place mode hfind
    exact ⟨place, mode, hfind⟩
  · cases h

theorem grows_ensureDirectory (fs : FileSystem) (path : List Char) (mode : Nat) :
    let made := fs.ensureDirectory path mode
    Grows fs made.1 path mode ∧
      (made.2 = none → ∃ place m, made.1.find path = .ok (place, .directory m)) := by
  intro made
  cases h : fs.makeDirectory path mode with
  | ok after =>
    obtain ⟨hgrows, place, hfind⟩ := grows_makeDirectory h
    simp only [made, ensureDirectory, h]
    exact ⟨hgrows, fun _ => ⟨place, mode, hfind⟩⟩
  | error reason =>
    simp only [made, ensureDirectory, h]
    split
    · rename_i hdirectory
      exact ⟨.refl fs path mode, fun _ => exists_of_isDirectory hdirectory⟩
    · exact ⟨.refl fs path mode, fun hnone => by cases hnone⟩

/-- Making directories only adds directories that are named by leading parts of the path. If it
succeeds, the path leads to a directory. -/
theorem grows_makeDirectories (fs : FileSystem) (path : List Char) (mode : Nat) :
    let made := fs.makeDirectories path mode
    Grows fs made.1 path mode ∧
      (made.2 = none → ∃ place m, made.1.find path = .ok (place, .directory m)) := by
  fun_induction makeDirectories fs path mode with
  | case1 path place m hfind => exact ⟨.refl fs path mode, fun _ => ⟨place, m, hfind⟩⟩
  | case2 path place m content hfind =>
    exact ⟨.refl fs path mode, fun hnone => by cases hnone⟩
  | case3 path reason hfind hparent => exact grows_ensureDirectory fs path mode
  | case4 path reason hfind parent hparent hshort made e hmade ih =>
    rw [hmade] at ih
    exact ⟨ih.1.trans (isLeading_parent hparent) (.refl made path mode),
      fun hnone => by cases hnone⟩
  | case5 path reason hfind parent hparent hshort made hmade ih =>
    rw [hmade] at ih
    obtain ⟨hgrows, hdirectory⟩ := grows_ensureDirectory made path mode
    exact ⟨ih.1.trans (isLeading_parent hparent) hgrows, hdirectory⟩

/-- Where a directory is already there is nothing to make. -/
theorem makeDirectories_of_find {fs : FileSystem} {path : List Char} {place : Place} {m : Nat}
    (h : fs.find path = .ok (place, .directory m)) (mode : Nat) :
    fs.makeDirectories path mode = (fs, none) := by
  rw [makeDirectories, h]

end FileSystem

end ProtoSchema.Files
