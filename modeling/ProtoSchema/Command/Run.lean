import ProtoSchema.Command.Flag
import ProtoSchema.Command.Log
import ProtoSchema.Command.Lookup
import ProtoSchema.Command.Output
import ProtoSchema.Command.Suggest
import ProtoSchema.Proto.Outline
import ProtoSchema.Schema.LoadFile

/-!
The command line: `generate` renders a schema file, `check` checks a proto file. A run is a function
of the file system and the words of the command line; it gives the file system afterwards and what
is written to standard output and standard error.
-/
namespace ProtoSchema.Command

open Files Proto

/-- The name of the program. -/
def programName : String := "widl-grpc"

/-! ## Settings -/

/-- The values of all flags. -/
structure Settings where
  output : String := ""
  package : String := ""
  goPackage : String := ""
  roles : List String := []
  skip : String := "nocodegen"
  check : Bool := false
  logLevel : String := "info"
  help : Bool := false
deriving Repr, Inhabited

/-- The flags that every command has. -/
def commonFlags : List (Flag Settings) := [
  .text "log-level" fun v s => { s with logLevel := v },
  (Flag.toggle "help" fun v s => { s with help := v }).withShort 'h']

/-- The flags of `generate`. -/
def generateFlags : List (Flag Settings) := [
  (Flag.text "output" fun v s => { s with output := v }).withShort 'o',
  .text "package" fun v s => { s with package := v },
  .text "go-package" fun v s => { s with goPackage := v },
  .names "role" fun v s => { s with roles := s.roles ++ v },
  .text "skip-annotation" fun v s => { s with skip := v },
  .toggle "check" fun v s => { s with check := v }]

/-- The roles to render. The names that were collected are written as one record, which is read once
more. -/
def Settings.roleNames (s : Settings) : Except RecordError (List String) :=
  Record.read (Record.write s.roles)

/-- The options of rendering that the settings ask for. -/
def Settings.options (s : Settings) : Except RecordError Options := do
  let names ← s.roleNames
  let skipped := if s.skip.isEmpty then [] else [.exclude s.skip]
  return {
    package := s.package
    goPackage := s.goPackage
    filter := some (.allOf (.roles names :: skipped)) }

/-- The name of the output in messages. -/
def Settings.outputName (s : Settings) : String :=
  if s.output.isEmpty then "<stdout>" else s.output

/-! ## Results -/

/-- Why a run fails. -/
inductive RunError where
  | unknownCommand (word : String)
  | flags (cause : FlagError)
  | argumentCount (count : Nat)
  | logLevel (word : String)
  | roles (cause : RecordError)
  | load (cause : LoadFileError)
  | render (cause : RenderError)
  | notProto (filename : String) (cause : SyntaxFault)
  | unread (cause : PathError)
  | output (cause : OutputError)
deriving Repr, Inhabited

/-- The commands that can be suggested. -/
def commandNames : List String := ["check", "generate", "completion"]

/-- What is said after an unknown command. -/
def suggestionText (word : String) : String :=
  match suggestions word commandNames with
  | [] => ""
  | names => "\n\nDid you mean this?\n" ++ String.join (names.map fun n => "\t" ++ n ++ "\n")

/-- The wording of an error. -/
def RunError.message : RunError → String
  | unknownCommand word =>
    "unknown command " ++ Text.quote word ++ " for " ++ Text.quote programName ++
      suggestionText word
  | flags cause => cause.message
  | argumentCount count => "accepts 1 arg(s), received " ++ toString count
  | logLevel word => "not a valid logrus Level: " ++ Text.quote word
  | roles cause => cause.message
  | load cause => cause.message
  | render cause => cause.message
  | notProto filename cause => cause.message filename
  | unread cause => cause.message
  | output cause => cause.message

/-- What is written to standard error after an error. -/
def RunError.report (e : RunError) : String :=
  "Error: " ++ e.message ++ "\n" ++
    match e with
    | unknownCommand _ => "Run '" ++ programName ++ " --help' for usage.\n"
    | _ => ""

/-- What a run leaves behind. -/
structure Run where
  files : FileSystem
  stdout : String := ""
  log : List LogEntry := []
  error : Option RunError := none
deriving Inhabited

/-! ## Commands -/

/-- Renders the schema in a file with some options and writes the text. -/
def generateWith (options : Options) (s : Settings) (path : String) (fs : FileSystem) : Run :=
  match Schema.loadFile fs path with
  | .error e => { files := fs, error := some (.load e) }
  | .ok schema =>
    let output := Proto.generate options schema
    let log := output.log.map (LogEntry.ofEvent path)
    match output.failure with
    | some e => { files := fs, log := log, error := some (.render e) }
    | none =>
      match if s.check then outline output.text else .ok {} with
      | .error e => { files := fs, log := log, error := some (.notProto s.outputName e) }
      | .ok _ =>
        let written := writeOutput {} s.output output.text fs {}
        let done : LogEntry :=
          { message := "generated proto", fields := [("schema", path), ("output", s.outputName)] }
        { files := written.files, stdout := written.stdout.text,
          log := if written.error.isSome then log else log ++ [done],
          error := written.error.map .output }

/-- Renders the schema in a file and writes the text, all as the settings ask for. -/
def generate (s : Settings) (path : String) (fs : FileSystem) : Run :=
  match s.options with
  | .error e => { files := fs, error := some (.roles e) }
  | .ok options => generateWith options s path fs

/-- Checks a proto file and says what it declares. -/
def check (path : String) (fs : FileSystem) : Run :=
  match fs.readFile path with
  | .error e => { files := fs, error := some (.unread e) }
  | .ok content =>
    match outline content with
    | .error e => { files := fs, error := some (.notProto path e) }
    | .ok o =>
      { files := fs,
        stdout := path ++ ": ok (package " ++ o.package ++ ", " ++ toString o.services.length ++
          " services, " ++ toString o.messages.length ++ " messages, " ++
          toString o.enums.length ++ " enums)\n" }

/-- A command with its flags and what it does with its argument. Those without an action only
print texts that explain the program, which are not given here. -/
structure Subcommand where
  name : String
  flags : List (Flag Settings) := []
  action : Option (Settings → String → FileSystem → Run) := none

/-- The command that renders schemas. -/
def generateCommand : Subcommand where
  name := "generate"
  flags := generateFlags
  action := some generate

/-- The commands. -/
def subcommands : List Subcommand := [
  { name := "check", action := some fun _ => check },
  generateCommand,
  { name := "help" },
  { name := "completion" }]

/-- Finds the command and the other words; there may be no command at all. -/
def findSubcommand (words : List String) : Except RunError (Option Subcommand × List String) :=
  match plainWords words with
  | [] => .ok (none, words)
  | first :: _ =>
    match subcommands.find? (·.name == first) with
    | none => .error (.unknownCommand first)
    | some c => .ok (some c, withoutFirst first words)

/-- Carries out an action with the values of the flags; gives the level of the log too. -/
def perform (action : Settings → String → FileSystem → Run) (s : Settings) (path : String)
    (fs : FileSystem) : Except RunError (Level × Run) :=
  match Level.ofWord? s.logLevel with
  | none => .error (.logLevel s.logLevel)
  | some level => .ok (level, action s path fs)

/-- Runs a command with the words that follow it. -/
def runSubcommand (c : Option Subcommand) (words : List String) (fs : FileSystem) :
    Except RunError (Level × Run) := do
  let flags := commonFlags ++ (c.map (·.flags)).getD []
  let (settings, arguments) ← (Flag.parse flags {} words).mapError .flags
  match c.bind (·.action) with
  | none => return (.info, { files := fs })
  | some action =>
    if settings.help then return (.info, { files := fs })
    match arguments with
    | [path] => perform action settings path fs
    | _ => throw (.argumentCount arguments.length)

/-- What is written to standard error. -/
def stderrText (level : Level) (run : Run) : String :=
  (if level.showsDebug then String.join (run.log.map (·.line)) else "") ++
    (run.error.map (·.report)).getD ""

/-- What a run of the program leaves behind. -/
structure Transcript where
  files : FileSystem
  stdout : String := ""
  stderr : String := ""
  error : Option RunError := none
deriving Inhabited

/-- What a result leaves behind, in a file system that was there before. -/
def Transcript.ofResult (fs : FileSystem) : Except RunError (Level × Run) → Transcript
  | .error e => { files := fs, stderr := e.report, error := some e }
  | .ok (level, r) =>
    { files := r.files, stdout := r.stdout, stderr := stderrText level r, error := r.error }

/-- Runs the program. -/
def run (fs : FileSystem) (words : List String) : Transcript :=
  Transcript.ofResult fs do
    let (c, rest) ← findSubcommand words
    runSubcommand c rest fs

end ProtoSchema.Command
