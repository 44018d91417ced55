import ProtoSchema.Proofs.FileSystem
import ProtoSchema.Proofs.Filling
import ProtoSchema.Proto.Delivery

/-!
# What a delivery touches

A schema is delivered in three steps: its text is rendered, directories are made, and a file is
written. Each may fail. A delivery that fails at the first has touched nothing at all; one that
fails later may have made directories, but no file is other than it was. One that succeeds leaves
the text in its file and has made nothing but directories for it, so that the same delivery again
changes nothing (`deliverFile_frame`).

`Delivers` says what the three steps can come to; all else is read off it. Which file is written is
said without the functions that choose it: `ChoosesStem` says how a file is called for which no name
is given.
-/

namespace ProtoSchema.Text

/-- A text without a character, or what stands before and after the last occurrence of it. -/
theorem exists_last_split (c : Char) (s : List Char) :
    c ∉ s ∨ ∃ front back, s = front ++ c :: back ∧ c ∉ back := by
  induction s with
  | nil => exact .inl (by simp)
  | cons d r ih =>
    rcases ih with hr | ⟨front, back, rfl, hback⟩
    · by_cases hd : d = c
      · exact .inr ⟨[], r, by rw [hd]; rfl, hr⟩
      · refine .inl fun hc => ?_
        rcases List.mem_cons.mp hc with heq | hmem
        · exact hd heq.symm
        · exact hr hmem
    · exact .inr ⟨d :: front, back, rfl, hback⟩

end ProtoSchema.Text

namespace ProtoSchema.Files.Path

open Text

theorem toList_append {directory name : String} (hdirectory : directory ≠ "") (hname : name ≠ "") :
    (append directory name).toList = clean (directory.toList ++ '/' :: name.toList) := by
  have hfilter : [directory.toList, name.toList].filter (· ≠ []) =
      [directory.toList, name.toList] := by
    simp [hdirectory, hname]
  unfold append
  rw [hfilter]
  show (String.ofList (clean (join ['/'] [directory.toList, name.toList]))).toList = _
  rw [String.toList_ofList, join_cons_cons]
  rfl

end ProtoSchema.Files.Path

namespace ProtoSchema.Proto

open Text Files FileSystem

/-! ## The name of the file -/

/-- What follows the last dot of a name; all of it, if it has none. -/
structure IsLastSegment (name segment : List Char) : Prop where
  undotted : '.' ∉ segment
  ends : name = segment ∨ ∃ front, name = front ++ '.' :: segment

theorem isLastSegment_lastSegment (name : List Char) : IsLastSegment name (lastSegment name) := by
  have hplain {s : List Char} (hs : '.' ∉ s) : ∀ c ∈ s.reverse, (c != '.') = true := by
    intro c hc
    rw [bne_iff_ne]
    rintro rfl
    exact hs (List.mem_reverse.mp hc)
  unfold lastSegment
  rcases exists_last_split '.' name with hname | ⟨front, back, rfl, hback⟩
  · rw [List.takeWhile_eq_self_iff.mpr (hplain hname), List.reverse_reverse]
    exact ⟨hname, .inl rfl⟩
  · rw [List.reverse_append, List.reverse_cons, List.append_assoc,
      List.takeWhile_append_of_pos (hplain hback)]
    simp only [List.singleton_append, bne_self_eq_false, Bool.false_eq_true, not_false_eq_true,
      List.takeWhile_cons_of_neg, List.append_nil, List.reverse_reverse]
    exact ⟨hback, .inr ⟨front, rfl⟩⟩

/-- The stem of a file name that is chosen from some names: the last segment of the first name for
which that is not empty. -/
inductive ChoosesStem : List String → String → Prop
  | none : ChoosesStem [] "generated"
  | first {name stem : String} {names : List String}
      (hsegment : IsLastSegment name.toList stem.toList) (hne : stem ≠ "") :
      ChoosesStem (name :: names) stem
  | later {name stem : String} {names : List String} (hsegment : IsLastSegment name.toList [])
      (hrest : ChoosesStem names stem) : ChoosesStem (name :: names) stem

theorem choosesStem_defaultStem (names : List String) : ChoosesStem names (defaultStem names) := by
  induction names with
  | nil => exact .none
  | cons name names ih =>
    have hsegment := isLastSegment_lastSegment name.toList
    unfold defaultStem
    split
    · rename_i hnil
      rw [hnil] at hsegment
      exact .later hsegment ih
    · rename_i hne
      refine .first (by rwa [String.toList_ofList]) ?_
      rw [← String.toList_inj.ne, String.toList_ofList]
      exact hne

theorem Destination.directoryOrDefault_eq (d : Destination) :
    d.directoryOrDefault = if d.directory = "" then "./proto" else d.directory := by
  simp only [directoryOrDefault, defaultDirectory, String.isEmpty_iff]

/-- The path of the file: in the directory the file of the given name, or of one that is chosen from
the package and the namespace. -/
theorem exists_pathFor_eq (o : Options) (s : Schema) (d : Destination) :
    ∃ stem, ChoosesStem [o.package, s.space.name] stem ∧
      d.pathFor o s = Path.append d.directoryOrDefault
        (if d.filename = "" then stem ++ ".proto" else d.filename) := by
  refine ⟨_, choosesStem_defaultStem _, ?_⟩
  simp only [Destination.pathFor, Destination.filenameFor, defaultFilename, String.isEmpty_iff]

/-! ## The steps -/

/-- What the steps of a delivery come to: nothing, some directories, or directories and the file. -/
inductive Delivers (o : Options) (s : Schema) (d : Destination) (fs : FileSystem) :
    FileSystem × Option DeliveryError → Prop
  | unrendered {e : RenderError} (hrender : render o s = .error e) :
      Delivers o s d fs (fs, some (.unrendered e))
  | unwritten {text : String} {made : FileSystem} {e : DeliveryError}
      (hrender : render o s = .ok text)
      (hgrows : Grows fs made d.directoryOrDefault.toList 0o750) :
      Delivers o s d fs (made, some e)
  | written {text : String} {made after : FileSystem} {place : Place} {mode : Nat}
      (hrender : render o s = .ok text)
      (hgrows : Grows fs made d.directoryOrDefault.toList 0o750)
      (hdirectory : made.find d.directoryOrDefault.toList = .ok (place, .directory mode))
      (hwrite : made.writeFile (d.pathFor o s) 0o600 text = .ok after) :
      Delivers o s d fs (after, none)

theorem delivers_deliverFile (o : Options) (s : Schema) (d : Destination) (fs : FileSystem) :
    Delivers o s d fs (deliverFile o s d fs) := by
  unfold deliverFile
  cases hrender : render o s with
  | error e => exact .unrendered hrender
  | ok text =>
    obtain ⟨hgrows, hdirectory⟩ := grows_makeDirectories fs d.directoryOrDefault.toList 0o750
    cases hmade : fs.makeDirectories d.directoryOrDefault.toList 0o750 with
    | mk made error =>
      rw [hmade] at hgrows hdirectory
      cases error with
      | some e => exact .unwritten hrender hgrows
      | none =>
        obtain ⟨place, mode, hfind⟩ := hdirectory rfl
        cases hwrite : made.writeFile (d.pathFor o s) 0o600 text with
        | error e =>
          simp only [hwrite]
          exact .unwritten hrender hgrows
        | ok after =>
          simp only [hwrite]
          exact .written hrender hgrows hfind hwrite

/-- If a schema cannot be rendered, neither the file system nor a sink is touched. If any step
fails, no file is made, taken away or changed. If none does, the file at the destination holds the
text, all else that is new are directories that are named by leading parts of the destination's
directory, and delivering again changes nothing. The file at the destination is the one of that name
in that directory, where what is not given has a default. -/
theorem deliverFile_frame (o : Options) (s : Schema) (d : Destination) (fs : FileSystem) :
    ∃ stem, ChoosesStem [o.package, s.space.name] stem ∧
      let directory := if d.directory = "" then "./proto" else d.directory
      let filename := if d.filename = "" then stem ++ ".proto" else d.filename
      let path := Path.append directory filename
      let (after, error) := deliverFile o s d fs
      path.toList = Path.clean (directory.toList ++ '/' :: filename.toList) ∧
      (∀ e, render o s = .error e →
        after = fs ∧ error = some (.unrendered e) ∧
          ∀ sink, deliver o s sink = (sink, some (.unrendered e))) ∧
      (error ≠ none → ∀ place mode content,
        after.entry? place = some (.file mode content) ↔
          fs.entry? place = some (.file mode content)) ∧
      (error = none → ∃ text, render o s = .ok text ∧ after.readFile path = .ok text ∧
        (∃ target mode, after.find path.toList = .ok (target, .file mode text) ∧
          ∀ place, place ≠ target → after.entry? place = fs.entry? place ∨
            (fs.entry? place = none ∧ ∃ lead, IsLeading lead directory.toList ∧
              after.find lead = .ok (place, .directory 0o750))) ∧
        deliverFile o s d after = (after, none)) := by
  have hdirectory := d.directoryOrDefault_eq
  obtain ⟨stem, hstem, hpath⟩ := exists_pathFor_eq o s d
  rw [hdirectory] at hpath
  refine ⟨stem, hstem, ?_⟩
  intro directory filename path
  have hclean : path.toList = Path.clean (directory.toList ++ '/' :: filename.toList) := by
    refine Path.toList_append ?_ ?_
    · by_cases h : d.directory = "" <;> simp [directory, h]
    · by_cases h : d.filename = "" <;> simp [filename, h]
  have hdelivers := delivers_deliverFile o s d fs
  generalize deliverFile o s d fs = result at hdelivers
  cases hdelivers with
  | unrendered hrender =>
    refine ⟨hclean, fun e he => ?_, fun _ place mode content => Iff.rfl, fun hnone => by cases hnone⟩
    rw [hrender] at he
    cases he
    refine ⟨rfl, rfl, fun sink => ?_⟩
    unfold deliver
    rw [hrender]
  | unwritten hrender hgrows =>
    refine ⟨hclean, fun e he => ?_, fun _ => hgrows.file_iff, fun hnone => by cases hnone⟩
    rw [hrender] at he
    cases he
  | @written text made after place mode hrender hgrows hfound hwrite =>
    refine ⟨hclean, fun e he => ?_, fun hsome => absurd rfl hsome, fun _ => ?_⟩
    · rw [hrender] at he
      cases he
    rw [hdirectory] at hgrows hfound
    rw [hpath] at hwrite
    obtain ⟨target, m, hfind, hframe, hkeeps, hagain⟩ := exists_of_writeFile hwrite
    refine ⟨text, hrender, readFile_of_find hfind, ⟨target, m, hfind, fun place hplace => ?_⟩, ?_⟩
    · exact hgrows.changes_of_write hframe hkeeps hplace
    · unfold deliverFile
      rw [hrender, hdirectory, hpath]
      simp only [makeDirectories_of_find (hkeeps.find_directory hfound)]
      rw [hagain]

end ProtoSchema.Proto
