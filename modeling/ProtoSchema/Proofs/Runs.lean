import ProtoSchema.Proofs.FileSystem
import ProtoSchema.Proofs.Obligations
import ProtoSchema.Proofs.Records

/-!
# All or nothing

A run of `generate` goes through five stages: the level of the log is read, the schema is loaded and
rendered, the text is checked if that is asked for, and the output is written. The file of the
output may be there already, and it may be the schema itself. It is opened only when nothing else
can fail any more, so a run that fails prints nothing and changes nothing, and one that succeeds
gives the whole text, either on standard output or in the file (`generate_all_or_nothing`).

`Ends` says how a run can end; the rest is read off it. The words of a command line come in at the
end only: `Asks` says which of them make such a run, and those of `commandLine`, which give each flag
a value, do (`asks_commandLine`).
-/

namespace ProtoSchema.Command

open Files FileSystem Proto

/-- What makes `generate` fail: one of its stages. `o` is what the settings ask of the rendering. -/
inductive Fails (s : Settings) (o : Options) (path : String) (fs : FileSystem) : Prop
  | level (h : Level.ofWord? s.logLevel = none)
  | load {e : LoadFileError} (h : Schema.loadFile fs path = .error e)
  | render {schema : Schema} {e : RenderError} (hload : Schema.loadFile fs path = .ok schema)
      (h : render o schema = .error e)
  | check {schema : Schema} {text : String} {e : SyntaxFault}
      (hload : Schema.loadFile fs path = .ok schema)
      (hrender : Proto.render o schema = .ok text)
      (hcheck : s.check = true) (h : outline text = .error e)
  | create {reason : Reason} (hnamed : s.output ≠ "")
      (h : fs.placeFile s.output.toList = .error reason)

/-- How `generate` ends: it fails and leaves everything as it was, or it prints the text of the
schema, or it writes the text to a file. -/
inductive Ends (s : Settings) (o : Options) (path : String) (fs : FileSystem) : Transcript → Prop
  | failed {stderr : String} {e : RunError} (hfails : Fails s o path fs) :
      Ends s o path fs { files := fs, stderr := stderr, error := some e }
  | printed {schema : Schema} {text stderr : String} (hsucceeds : ¬ Fails s o path fs)
      (hload : Schema.loadFile fs path = .ok schema) (hrender : render o schema = .ok text)
      (hunnamed : s.output = "") :
      Ends s o path fs { files := fs, stdout := text, stderr := stderr }
  | written {schema : Schema} {text stderr : String} {after : FileSystem}
      (hsucceeds : ¬ Fails s o path fs) (hload : Schema.loadFile fs path = .ok schema)
      (hrender : render o schema = .ok text) (hnamed : s.output ≠ "")
      (hwrite : fs.writeFile s.output outputMode text = .ok after) :
      Ends s o path fs { files := after, stderr := stderr }

/-- A run of `generate` with the values of its flags and the path of a schema. -/
def generateRun (s : Settings) (path : String) (fs : FileSystem) : Transcript :=
  .ofResult fs (perform generate s path fs)

variable {s : Settings} {o : Options} {path : String} {fs : FileSystem}

/-! ## Stages -/

theorem not_fails {level : Level} {schema : Schema} {text : String}
    (hlevel : Level.ofWord? s.logLevel = some level)
    (hload : Schema.loadFile fs path = .ok schema) (hrender : render o schema = .ok text)
    (hcheck : s.check = true → ∃ found, outline text = .ok found)
    (hcreate : s.output ≠ "" → ∃ target, fs.placeFile s.output.toList = .ok target) :
    ¬ Fails s o path fs := by
  intro h
  cases h with
  | level h =>
    rw [hlevel] at h
    cases h
  | load h =>
    rw [hload] at h
    cases h
  | render hload' h =>
    rw [hload] at hload'
    cases hload'
    rw [hrender] at h
    cases h
  | check hload' hrender' hasked h =>
    rw [hload] at hload'
    cases hload'
    rw [hrender] at hrender'
    cases hrender'
    obtain ⟨found, hfound⟩ := hcheck hasked
    rw [hfound] at h
    cases h
  | create hnamed h =>
    obtain ⟨target, htarget⟩ := hcreate hnamed
    rw [htarget] at h
    cases h

/-- The output of a run whose other stages are passed. -/
theorem ends_writeOutput {level : Level} {schema : Schema} {text : String}
    (hlevel : Level.ofWord? s.logLevel = some level)
    (hload : Schema.loadFile fs path = .ok schema) (hrender : render o schema = .ok text)
    (hcheck : s.check = true → ∃ found, outline text = .ok found) (stderr : String) :
    let written := writeOutput {} s.output text fs {}
    Ends s o path fs ⟨written.files, written.stdout.text, stderr, written.error.map .output⟩ := by
  by_cases hunnamed : s.output = ""
  · have hsucceeds : ¬ Fails s o path fs :=
      not_fails hlevel hload hrender hcheck fun h => absurd hunnamed h
    have hwritten : writeOutput {} s.output text fs {} =
        ⟨fs, { writes := [text] }, none, [.write none]⟩ := by
      rw [hunnamed]
      rfl
    have htext : Sink.text { writes := [text] } = text := by simp [Sink.text, String.join_cons]
    rw [hwritten]
    simp only [htext]
    exact .printed hsucceeds hload hrender hunnamed
  · have hempty : s.output.isEmpty = false := by simpa using hunnamed
    have hfile : writeOutput {} s.output text fs {} = writeToFile {} s.output text fs {} := by
      unfold writeOutput
      rw [hempty]
      rfl
    have htaken : OutputFaults.taken {} text = (text, none) := rfl
    cases hplace : fs.placeFile s.output.toList with
    | error reason =>
      have hwrite : fs.writeFile s.output outputMode text =
          .error ⟨.opening, s.output, reason⟩ := by
        unfold writeFile
        rw [hplace]
      simp only [hfile, writeToFile, htaken, hwrite]
      exact .failed (.create hunnamed hplace)
    | ok target =>
      have hwrite : fs.writeFile s.output outputMode text =
          .ok (fs.set target.1 (.file (target.2.getD outputMode) text)) := by
        unfold writeFile
        rw [hplace]
      have hsucceeds : ¬ Fails s o path fs :=
        not_fails hlevel hload hrender hcheck fun _ => ⟨target, hplace⟩
      simp only [hfile, writeToFile, htaken, hwrite]
      exact .written hsucceeds hload hrender hunnamed hwrite

theorem ends_generateRun (hoptions : s.options = .ok o) (path : String) (fs : FileSystem) :
    Ends s o path fs (generateRun s path fs) := by
  unfold generateRun perform
  cases hlevel : Level.ofWord? s.logLevel with
  | none => exact .failed (.level hlevel)
  | some level =>
    simp only [Transcript.ofResult, generate, hoptions, generateWith]
    cases hload : Schema.loadFile fs path with
    | error e => exact .failed (.load hload)
    | ok schema =>
      cases hfailure : (Proto.generate o schema).failure with
      | some e =>
        simp only [hfailure]
        exact .failed (.render hload (render_eq_error.mpr hfailure))
      | none =>
        have hrender : render o schema = .ok (Proto.generate o schema).text := by
          simp only [render, hfailure]
        simp only [hfailure]
        cases hasked : s.check with
        | false =>
          exact ends_writeOutput hlevel hload hrender (fun h => by rw [hasked] at h; cases h) _
        | true =>
          cases houtline : outline (Proto.generate o schema).text with
          | error e =>
            simp only [if_true]
            exact .failed (.check hload hrender hasked houtline)
          | ok found =>
            simp only [if_true]
            exact ends_writeOutput hlevel hload hrender (fun _ => ⟨found, houtline⟩) _

/-! ## How a run ends -/

theorem Ends.nothing {t : Transcript} (h : Ends s o path fs t) (hfails : Fails s o path fs) :
    t.error ≠ none ∧ t.stdout = "" ∧ t.files = fs := by
  cases h with
  | failed _ => exact ⟨by simp, rfl, rfl⟩
  | printed hsucceeds => exact absurd hfails hsucceeds
  | written hsucceeds => exact absurd hfails hsucceeds

theorem Ends.all {t : Transcript} (h : Ends s o path fs t) (hsucceeds : ¬ Fails s o path fs) :
    t.error = none ∧ ∃ schema text,
      Schema.loadFile fs path = .ok schema ∧ render o schema = .ok text ∧
      (s.output = "" → t.stdout = text ∧ t.files = fs) ∧
      (s.output ≠ "" → t.stdout = "" ∧ t.files.readFile s.output = .ok text ∧
        ∃ place mode, t.files.find s.output.toList = .ok (place, .file mode text) ∧
          ∀ other, other ≠ place → t.files.entry? other = fs.entry? other) := by
  cases h with
  | failed hfails => exact absurd hfails hsucceeds
  | @printed schema text _ _ hload hrender hunnamed =>
    exact ⟨rfl, schema, text, hload, hrender, fun _ => ⟨rfl, rfl⟩, fun h => absurd hunnamed h⟩
  | @written schema text _ after _ hload hrender hnamed hwrite =>
    obtain ⟨place, mode, hfind, hframe, -, -⟩ := exists_of_writeFile hwrite
    exact ⟨rfl, schema, text, hload, hrender, fun h => absurd h hnamed,
      fun _ => ⟨rfl, readFile_of_find hfind, place, mode, hfind, hframe⟩⟩

/-- Of the settings only the options of rendering and the name of the output count. -/
theorem Ends.agree {s' : Settings} {t t' : Transcript} (h : Ends s o path fs t)
    (h' : Ends s' o path fs t') (houtput : s'.output = s.output)
    (herror : t.error = none) (herror' : t'.error = none) :
    t'.stdout = t.stdout ∧ t'.files = t.files := by
  cases h with
  | failed _ => cases herror
  | printed _ hload hrender hunnamed =>
    cases h' with
    | failed _ => cases herror'
    | printed _ hload' hrender' _ =>
      rw [hload] at hload'
      cases hload'
      rw [hrender] at hrender'
      cases hrender'
      exact ⟨rfl, rfl⟩
    | written _ _ _ hnamed _ => exact absurd (houtput.trans hunnamed) hnamed
  | written _ hload hrender hnamed hwrite =>
    cases h' with
    | failed _ => cases herror'
    | printed _ _ _ hunnamed => exact absurd (houtput.symm.trans hunnamed) hnamed
    | written _ hload' hrender' _ hwrite' =>
      rw [hload] at hload'
      cases hload'
      rw [hrender] at hrender'
      cases hrender'
      rw [houtput, hwrite] at hwrite'
      cases hwrite'
      exact ⟨rfl, rfl⟩

/-! ## Command lines -/

/-- The words ask for `generate` with these values of the flags and this schema. -/
structure Asks (words : List String) (s : Settings) (path : String) : Prop where
  generates : ∃ rest, findSubcommand words = .ok (some generateCommand, rest) ∧
    Flag.parse (commonFlags ++ generateFlags) {} rest = .ok (s, [path])
  unhelped : s.help = false

theorem Asks.run_eq {words : List String} (h : Asks words s path) (fs : FileSystem) :
    run fs words = generateRun s path fs := by
  obtain ⟨⟨rest, hfound, hparse⟩, hhelp⟩ := h
  have hrun : runSubcommand (some generateCommand) rest fs = perform generate s path fs := by
    simp only [runSubcommand, generateCommand, Option.map_some, Option.getD_some,
      Option.bind_some, hparse, hhelp, Except.mapError, bind, Except.bind]
    rfl
  unfold run generateRun
  rw [hfound]
  exact congrArg (Transcript.ofResult fs) hrun

theorem findSubcommand_generate (words : List String) :
    findSubcommand ("generate" :: words) = .ok (some generateCommand, words) := by
  have hstop : ("generate" == "--") = false := by decide
  have htakes : takesNext "generate" = false := by decide +kernel
  have hplain : ("generate".isEmpty || "generate".startsWith "-") = false := by decide +kernel
  have hwords : plainWords ("generate" :: words) = "generate" :: plainWords words := by
    rw [plainWords.eq_def]
    simp only [hstop, htakes, hplain, Bool.false_eq_true, if_false]
  have hrest : withoutFirst "generate" ("generate" :: words) = words := by
    rw [withoutFirst.eq_def]
    simp only [hstop, htakes, Bool.false_eq_true, if_false, beq_self_eq_true, if_true]
  unfold findSubcommand
  rw [hwords]
  simp only [hrest]
  rfl

namespace Flag

variable {σ : Type} {flags : List (Flag σ)} {s t : σ} {word : String}

theorem parse_done (h : effect flags s word = .done (.ok t)) (words : List String) :
    parse flags s (word :: words) = parse flags t words := by
  rw [parse, h]
  rfl

theorem parse_pending {f : Flag σ} {missing : FlagError} {value : String}
    (h : effect flags s word = .pending f missing) (hput : f.put value s = .ok t)
    (words : List String) : parse flags s (word :: value :: words) = parse flags t words := by
  rw [parse, h]
  simp only [set, hput]
  rfl

theorem effect_of_head (h : word.toList.head? ≠ some '-') : effect flags s word = .word := by
  unfold effect
  split
  · rename_i hlong
    rw [hlong] at h
    exact absurd rfl h
  · rename_i hshort
    rw [hshort] at h
    exact absurd rfl h
  · rfl

end Flag

/-- A command line that gives each flag of `generate` a value. The roles stand in records, of which
there may be several. -/
def commandLine (s : Settings) (path : String) (records : List String) : List String :=
  ["generate", path, "--output", s.output, "--package", s.package, "--go-package", s.goPackage,
    "--skip-annotation", s.skip, "--log-level", s.logLevel,
    if s.check then "--check=true" else "--check=false"] ++
  records.flatMap fun record => ["--role", record]

/-- Each record adds its names to those before it. -/
theorem parse_records {records : List String} {groups : List (List String)}
    (h : List.Forall₂ (fun record names => Record.read record = .ok names) records groups)
    (t : Settings) :
    Flag.parse (commonFlags ++ generateFlags) t (records.flatMap fun record => ["--role", record]) =
      .ok ({ t with roles := t.roles ++ groups.flatten }, []) := by
  induction h generalizing t with
  | nil =>
    rw [List.flatten_nil, List.append_nil]
    rfl
  | @cons record names records groups hrecord _ ih =>
    have hput : (Flag.names "role" fun v s => { s with roles := s.roles ++ v }).put record t =
        .ok { t with roles := t.roles ++ names } := by
      simp only [Flag.names, hrecord]
    rw [List.flatMap_cons, List.cons_append, List.singleton_append,
      Flag.parse_pending rfl hput, ih, List.flatten_cons, List.append_assoc]

/-- Flags can have any values: there is a command line that asks for them, provided that there are
records of the roles. -/
theorem asks_commandLine {records : List String} {groups : List (List String)}
    (hpath : path.toList.head? ≠ some '-')
    (hrecords : List.Forall₂ (fun record names => Record.read record = .ok names) records groups)
    (hroles : groups.flatten = s.roles) (hhelp : s.help = false) :
    Asks (commandLine s path records) s path := by
  simp only [commandLine, List.cons_append, List.nil_append]
  refine ⟨⟨_, findSubcommand_generate _, ?_⟩, hhelp⟩
  have hcheck : ∀ t : Settings,
      Flag.effect (commonFlags ++ generateFlags) t
        (if s.check then "--check=true" else "--check=false") =
          .done (.ok { t with check := s.check }) := by
    intro t
    cases s.check with
    | false => rfl
    | true => rfl
  rw [Flag.parse, Flag.effect_of_head hpath]
  simp only
  -- the output, both packages, the annotation to skip and the level of the log
  rw [Flag.parse_pending rfl rfl, Flag.parse_pending rfl rfl, Flag.parse_pending rfl rfl,
    Flag.parse_pending rfl rfl, Flag.parse_pending rfl rfl]
  rw [Flag.parse_done (hcheck _), parse_records hrecords, hroles]
  cases s
  cases hhelp
  rfl

/-- A run of `generate` fails if one of its stages does. Then it prints nothing and changes no file.
Otherwise it gives the text of the schema, rendered with what the flags ask for: without the name of
an output it prints the text and changes no file; with a name it prints nothing, the file of that
name holds the text, and no other file is changed. The level of the log and the check play no part
in what is given. -/
theorem generate_all_or_nothing (s : Settings) (path : String) (fs : FileSystem) :
    let skipped : List Filter := if s.skip = "" then [] else [.exclude s.skip]
    let options : Options := {
      package := s.package
      goPackage := s.goPackage
      filter := some (.allOf (.roles (Record.reread s.roles) :: skipped)) }
    let t := generateRun s path fs
    (∀ words, Asks words s path → run fs words = t) ∧
      (∀ records groups, path.toList.head? ≠ some '-' → s.help = false →
        List.Forall₂ (fun record names => Record.read record = .ok names) records groups →
        groups.flatten = s.roles → run fs (commandLine s path records) = t) ∧
      (Fails s options path fs → t.error ≠ none ∧ t.stdout = "" ∧ t.files = fs) ∧
      (¬ Fails s options path fs → t.error = none ∧ ∃ schema text,
        Schema.loadFile fs path = .ok schema ∧ render options schema = .ok text ∧
        (s.output = "" → t.stdout = text ∧ t.files = fs) ∧
        (s.output ≠ "" → t.stdout = "" ∧ t.files.readFile s.output = .ok text ∧
          ∃ place mode, t.files.find s.output.toList = .ok (place, .file mode text) ∧
            ∀ other, other ≠ place → t.files.entry? other = fs.entry? other)) ∧
      ∀ s', { s' with logLevel := s.logLevel, check := s.check } = s →
        let t' := generateRun s' path fs
        t.error = none → t'.error = none → t'.stdout = t.stdout ∧ t'.files = t.files := by
  intro skipped options t
  have hoptions : s.options = .ok options := s.options_eq
  have hends : Ends s options path fs t := ends_generateRun hoptions path fs
  refine ⟨fun words h => h.run_eq fs, fun records groups hpath hhelp hrecords hroles =>
    (asks_commandLine hpath hrecords hroles hhelp).run_eq fs, hends.nothing, hends.all, ?_⟩
  intro s' hsame t' herror herror'
  have hoptions' : s'.options = .ok options := by
    rw [← hoptions, ← hsame]
    rfl
  have houtput : s'.output = s.output := by rw [← hsame]
  exact hends.agree (ends_generateRun hoptions' path fs) houtput herror herror'

end ProtoSchema.Command
