import ProtoSchema.Proto.Delivery

/-!
The output of a command: a file, or standard output if no file is named. Creating, writing and
closing a file may each go wrong; only the first two are reported.
-/
namespace ProtoSchema.Command

open Files Proto

/-- What goes wrong with an output beyond what the file system and standard output refuse by
themselves. -/
structure OutputFaults where
  /-- The file cannot be created. -/
  creating : Option Reason := none
  /-- Writing stops after a number of characters, for a reason. -/
  writing : Option (Nat × String) := none
  /-- The file cannot be closed, for a reason. -/
  closing : Option String := none
deriving Repr, DecidableEq, Inhabited

/-- The part of a text that is taken, and why no more of it is. -/
def OutputFaults.taken (faults : OutputFaults) (text : String) : String × Option String :=
  match faults.writing with
  | some (n, reason) => (String.ofList (text.toList.take n), some reason)
  | none => (text, none)

/-- Why the output is not written. -/
inductive OutputError where
  | uncreated (cause : PathError)
  | unwritten (reason : String)
deriving Repr, DecidableEq, Inhabited

/-- The wording of an error. -/
def OutputError.message : OutputError → String
  | uncreated cause => cause.message
  | unwritten reason => "failed to write proto: " ++ reason

/-- An operation on an output, with what went wrong. -/
inductive Attempt where
  | create (failure : Option PathError)
  | write (failure : Option String)
  | close (failure : Option String)
deriving Repr, DecidableEq, Inhabited

/-- The file system, standard output, the error, if there was one, and what was attempted, in
order. -/
structure Written where
  files : FileSystem
  stdout : Sink
  error : Option OutputError := none
  attempts : List Attempt
deriving Repr, Inhabited

/-- The mode of new output files. -/
def outputMode : Nat := 0o644

/-- Writes text to a file. The file is closed once it was created, and what closing it gives is not
looked at. -/
def writeToFile (faults : OutputFaults) (path text : String) (fs : FileSystem) (stdout : Sink) :
    Written :=
  match faults.creating with
  | some reason =>
    let cause : PathError := ⟨.opening, path, reason⟩
    ⟨fs, stdout, some (.uncreated cause), [.create (some cause)]⟩
  | none =>
    let (taken, failure) := faults.taken text
    match fs.writeFile path outputMode taken with
    | .error cause => ⟨fs, stdout, some (.uncreated cause), [.create (some cause)]⟩
    | .ok written =>
      ⟨written, stdout, failure.map .unwritten,
        [.create none, .write failure, .close faults.closing]⟩

/-- Writes text to standard output. -/
def writeToStdout (faults : OutputFaults) (text : String) (fs : FileSystem) (stdout : Sink) :
    Written :=
  let (taken, failure) := faults.taken text
  match stdout.write taken with
  | .error reason => ⟨fs, stdout, some (.unwritten reason), [.write (some reason)]⟩
  | .ok stdout => ⟨fs, stdout, failure.map .unwritten, [.write failure]⟩

/-- Writes text to a file, or to standard output if no file is named. -/
def writeOutput (faults : OutputFaults) (path text : String) (fs : FileSystem) (stdout : Sink) :
    Written :=
  if path.isEmpty then writeToStdout faults text fs stdout
  else writeToFile faults path text fs stdout

end ProtoSchema.Command
