import ProtoSchema.Command.Output
import ProtoSchema.Proofs.Results

/-!
# What is reported of an output

An output is created, written and closed, and each of these operations may fail. `attempted` says
which of them are made: a file that cannot be created is neither written nor closed, one that was
created is closed even if writing it failed, and standard output is only written.

The error that comes back is the first failure of creating or writing. What closing gives comes back
never, though a file may lose what was written to it just then. So no error means that everything
went well in all cases but one: the file was created and written, and could not be closed
(`writeOutput_reports_all_but_closing`).
-/

namespace ProtoSchema.Command

open Files Proto

/-- Whether an operation failed. -/
def Attempt.failed : Attempt → Bool
  | create failure => failure.isSome
  | write failure => failure.isSome
  | close failure => failure.isSome

/-- The error by which a failure is reported. -/
def Attempt.report? : Attempt → Option OutputError
  | create failure => failure.map .uncreated
  | write failure => failure.map .unwritten
  | close _ => none

/-- Why a file cannot be created. -/
def creationFailure (faults : OutputFaults) (path : String) (fs : FileSystem) : Option PathError :=
  (faults.creating.or (errorOf (fs.placeFile path.toList))).map fun reason => ⟨.opening, path, reason⟩

/-- The reason for which writing stops. -/
def OutputFaults.writingFailure (faults : OutputFaults) : Option String :=
  faults.writing.map Prod.snd

/-- All operations on an output, with what goes wrong. -/
def attempted (faults : OutputFaults) (path : String) (fs : FileSystem) (stdout : Sink) :
    List Attempt :=
  if path = "" then [.write (stdout.refusal.or faults.writingFailure)]
  else
    match creationFailure faults path fs with
    | some cause => [.create (some cause)]
    | none => [.create none, .write faults.writingFailure, .close faults.closing]

variable {faults : OutputFaults} {path : String} {fs : FileSystem}

/-! ## One operation after another -/

theorem taken_snd (faults : OutputFaults) (text : String) :
    (faults.taken text).2 = faults.writingFailure := by
  unfold OutputFaults.taken OutputFaults.writingFailure
  cases faults.writing with
  | none => rfl
  | some stop => rfl

theorem exists_writeToStdout (faults : OutputFaults) (text : String) (fs : FileSystem)
    (stdout : Sink) :
    let failure := stdout.refusal.or faults.writingFailure
    ∃ sink, writeToStdout faults text fs stdout =
      ⟨fs, sink, failure.map .unwritten, [.write failure]⟩ := by
  rw [← taken_snd faults text]
  unfold writeToStdout Sink.write
  cases stdout.refusal with
  | none => exact ⟨_, rfl⟩
  | some reason => exact ⟨stdout, rfl⟩

/-- A file that was not created is left alone. -/
theorem writeToFile_of_uncreated {cause : PathError}
    (h : creationFailure faults path fs = some cause) (text : String) (stdout : Sink) :
    writeToFile faults path text fs stdout =
      ⟨fs, stdout, some (.uncreated cause), [.create (some cause)]⟩ := by
  unfold creationFailure at h
  unfold writeToFile FileSystem.writeFile
  cases hcreating : faults.creating with
  | some reason =>
    rw [hcreating] at h
    cases h
    rfl
  | none =>
    rw [hcreating, Option.none_or] at h
    cases hplace : fs.placeFile path.toList with
    | error reason =>
      rw [hplace] at h
      cases h
      rfl
    | ok target =>
      rw [hplace] at h
      cases h

/-- A file that was created is written and closed, whatever comes of it. -/
theorem exists_writeToFile_of_created (h : creationFailure faults path fs = none) (text : String)
    (stdout : Sink) :
    ∃ written, writeToFile faults path text fs stdout =
      ⟨written, stdout, faults.writingFailure.map .unwritten,
        [.create none, .write faults.writingFailure, .close faults.closing]⟩ := by
  rw [← taken_snd faults text]
  unfold creationFailure at h
  unfold writeToFile FileSystem.writeFile
  cases hcreating : faults.creating with
  | some reason =>
    rw [hcreating] at h
    cases h
  | none =>
    rw [hcreating, Option.none_or] at h
    cases hplace : fs.placeFile path.toList with
    | error reason =>
      rw [hplace] at h
      cases h
    | ok target => exact ⟨_, rfl⟩

/-! ## All of them -/

/-- The ways of an output, with the error and what was attempted: to standard output, to a file that
cannot be created, and to one that can. -/
inductive Goes (faults : OutputFaults) (path : String) :
    Option OutputError → List Attempt → Prop
  | printed (hpath : path = "") (failure : Option String) :
      Goes faults path (failure.map .unwritten) [.write failure]
  | uncreated (cause : PathError) :
      Goes faults path (some (.uncreated cause)) [.create (some cause)]
  | filed (hpath : path ≠ "") :
      Goes faults path (faults.writingFailure.map .unwritten)
        [.create none, .write faults.writingFailure, .close faults.closing]

theorem goes_writeOutput (faults : OutputFaults) (path text : String) (fs : FileSystem)
    (stdout : Sink) :
    let w := writeOutput faults path text fs stdout
    w.attempts = attempted faults path fs stdout ∧ Goes faults path w.error w.attempts := by
  by_cases hpath : path = ""
  · obtain ⟨sink, hsink⟩ := exists_writeToStdout faults text fs stdout
    subst hpath
    have hwrite : writeOutput faults "" text fs stdout = writeToStdout faults text fs stdout := rfl
    rw [hwrite, hsink]
    exact ⟨rfl, .printed rfl _⟩
  · have hempty : path.isEmpty = false := by simpa using hpath
    unfold writeOutput attempted
    rw [hempty, if_neg hpath, if_neg Bool.false_ne_true]
    cases hcreate : creationFailure faults path fs with
    | some cause =>
      rw [writeToFile_of_uncreated hcreate]
      exact ⟨rfl, .uncreated cause⟩
    | none =>
      obtain ⟨written, hwritten⟩ := exists_writeToFile_of_created hcreate text stdout
      rw [hwritten]
      exact ⟨rfl, .filed hpath⟩

theorem Goes.error_eq {error : Option OutputError} {acts : List Attempt}
    (h : Goes faults path error acts) : error = acts.findSome? Attempt.report? := by
  cases h with
  | printed _ failure =>
    cases failure with
    | none => rfl
    | some reason => rfl
  | uncreated cause => rfl
  | filed _ =>
    cases faults.writingFailure with
    | none => rfl
    | some reason => rfl

/-- No error means success, but for a file that is written and cannot be closed. -/
theorem Goes.silent_iff {error : Option OutputError} {acts : List Attempt}
    (h : Goes faults path error acts) :
    (error = none → ∀ a ∈ acts, a.failed = false) ↔
      path = "" ∨ error ≠ none ∨ faults.closing = none := by
  cases h with
  | printed hpath failure =>
    refine ⟨fun _ => .inl hpath, fun _ hnone a ha => ?_⟩
    rw [List.mem_singleton.mp ha, Option.map_eq_none_iff.mp hnone]
    rfl
  | uncreated cause => simp
  | filed hpath =>
    cases faults.writingFailure with
    | some reason => simp
    | none => simp [hpath, Attempt.failed]

theorem error_writeOutput (faults : OutputFaults) (path text : String) (fs : FileSystem)
    (stdout : Sink) :
    (writeOutput faults path text fs stdout).error =
      (attempted faults path fs stdout).findSome? Attempt.report? := by
  obtain ⟨hattempts, hgoes⟩ := goes_writeOutput faults path text fs stdout
  rw [← hattempts]
  exact hgoes.error_eq

/-- What closing gives is not looked at. -/
theorem error_writeOutput_closing (faults : OutputFaults) (closing : Option String)
    (path text : String) (fs : FileSystem) (stdout : Sink) :
    (writeOutput { faults with closing := closing } path text fs stdout).error =
      (writeOutput faults path text fs stdout).error := by
  have hcreate : creationFailure { faults with closing := closing } path fs =
      creationFailure faults path fs := rfl
  rw [error_writeOutput, error_writeOutput]
  unfold attempted
  rw [hcreate]
  split
  · rfl
  · cases creationFailure faults path fs with
    | some cause => rfl
    | none => rfl

/-- Every failure of creating or writing an output is reported, by the error of the first, and no
failure of closing it is: a file that could not be closed makes no difference to the error. So no
error means that everything that was attempted went well if and only if it is not the case that a
file was created and written and could not be closed. -/
theorem writeOutput_reports_all_but_closing (faults : OutputFaults) (path text : String)
    (fs : FileSystem) (stdout : Sink) :
    let w := writeOutput faults path text fs stdout
    w.attempts = attempted faults path fs stdout ∧
      w.error = w.attempts.findSome? Attempt.report? ∧
      (∀ closing, (writeOutput { faults with closing := closing } path text fs stdout).error =
        w.error) ∧
      ((w.error = none → ∀ a ∈ w.attempts, a.failed = false) ↔
        path = "" ∨ w.error ≠ none ∨ faults.closing = none) := by
  intro w
  obtain ⟨hattempts, hgoes⟩ := goes_writeOutput faults path text fs stdout
  exact ⟨hattempts, hgoes.error_eq,
    fun closing => error_writeOutput_closing faults closing path text fs stdout, hgoes.silent_iff⟩

/-- A file that was created and written in full, and that could not be closed: nobody hears of
it. -/
theorem writeOutput_unclosed :
    let faults : OutputFaults := { closing := some "close out.proto: input/output error" }
    let w := writeOutput faults "out.proto" "package p;\n" .fresh {}
    w.error = none ∧
      w.attempts = [.create none, .write none, .close (some "close out.proto: input/output error")] ∧
      ¬ (w.error = none → ∀ a ∈ w.attempts, a.failed = false) := by
  intro faults w
  have hattempts : w.attempts =
      [.create none, .write none, .close (some "close out.proto: input/output error")] := by
    decide +kernel
  have herror : w.error = none := by
    decide +kernel
  refine ⟨herror, hattempts, fun h => ?_⟩
  have hclosed := h herror (.close (some "close out.proto: input/output error")) (by simp [hattempts])
  cases hclosed

end ProtoSchema.Command
