import ProtoSchema.Files.FileSystem
import ProtoSchema.Proto.Render

/-!
Where rendered text goes: to a sink, which may refuse it, or into a file of a directory. Nothing is
touched before the whole text is there.
-/
namespace ProtoSchema.Proto

open Files

/-! ## Sinks -/

/-- Something that takes text; it may refuse all text, for a reason. -/
structure Sink where
  /-- What was written, one write after another. -/
  writes : List String := []
  refusal : Option String := none
deriving Repr, DecidableEq, Inhabited

/-- All that was written. -/
def Sink.text (sink : Sink) : String := String.join sink.writes

/-- Gives text to a sink. -/
def Sink.write (sink : Sink) (text : String) : Except String Sink :=
  match sink.refusal with
  | some reason => .error reason
  | none => .ok { sink with writes := sink.writes ++ [text] }

/-! ## Failures -/

/-- Why a text is not delivered. -/
inductive DeliveryError where
  | unrendered (cause : RenderError)
  | refused (reason : String)
  | noDirectory (cause : PathError)
  | noFile (cause : PathError)
deriving Repr, Inhabited

/-- The wording of an error. -/
def DeliveryError.message : DeliveryError → String
  | unrendered cause => cause.message
  | refused reason => "failed to write proto: " ++ reason
  | noDirectory cause => "failed to create output directory: " ++ cause.message
  | noFile cause => "failed to write proto file: " ++ cause.message

/-- Renders a schema and gives the text to a sink; also gives the sink as it is then. -/
def deliver (o : Options) (s : Schema) (sink : Sink) : Sink × Option DeliveryError :=
  match render o s with
  | .error e => (sink, some (.unrendered e))
  | .ok text =>
    match sink.write text with
    | .error reason => (sink, some (.refused reason))
    | .ok written => (written, none)

/-! ## Files -/

/-- The directory that is used if none is named. -/
def defaultDirectory : String := "./proto"

/-- What follows the last dot of a name, or all of it. -/
def lastSegment (name : List Char) : List Char :=
  (name.reverse.takeWhile (· != '.')).reverse

/-- The stem of the file name that is used if none is named: the last segment of the first of some
names for which that is not empty. -/
def defaultStem : List String → String
  | [] => "generated"
  | name :: names =>
    match lastSegment name.toList with
    | [] => defaultStem names
    | stem => String.ofList stem

/-- The file name that is used if none is named. -/
def defaultFilename (names : List String) : String := defaultStem names ++ ".proto"

/-- Where a rendered schema goes; what is empty has a default. -/
structure Destination where
  directory : String := ""
  filename : String := ""
deriving Repr, DecidableEq, Inhabited

/-- The directory of a destination. -/
def Destination.directoryOrDefault (d : Destination) : String :=
  if d.directory.isEmpty then defaultDirectory else d.directory

/-- The file name of a destination. -/
def Destination.filenameFor (d : Destination) (o : Options) (s : Schema) : String :=
  if d.filename.isEmpty then defaultFilename [o.package, s.space.name] else d.filename

/-- The path of the file that is written. -/
def Destination.pathFor (d : Destination) (o : Options) (s : Schema) : String :=
  Path.append d.directoryOrDefault (d.filenameFor o s)

/-- Renders a schema into a file, in a directory that is made if it is not there; also gives the
file system as it is then. -/
def deliverFile (o : Options) (s : Schema) (d : Destination) (fs : FileSystem) :
    FileSystem × Option DeliveryError :=
  match render o s with
  | .error e => (fs, some (.unrendered e))
  | .ok text =>
    match fs.makeDirectories d.directoryOrDefault.toList 0o750 with
    | (made, some e) => (made, some (.noDirectory e))
    | (made, none) =>
      match made.writeFile (d.pathFor o s) 0o600 text with
      | .error e => (made, some (.noFile e))
      | .ok written => (written, none)

end ProtoSchema.Proto
