/-!
Finding the command among the words of a command line. It is the first word that is neither a flag
nor the value of one; as the flags of commands are not known yet, every flag without an equals sign
is taken to have the next word as its value, except for several letters after one dash.
-/
namespace ProtoSchema.Command

/-- Whether a word is a flag that takes the next word as its value. -/
def takesNext (word : String) : Bool :=
  word.startsWith "-" && !word.contains '=' && (word.startsWith "--" || word.utf8ByteSize == 2)

/-- The words that are neither flags nor values of flags. The last word is never a value. -/
def plainWords : List String → List String
  | [] => []
  | word :: words =>
    if word == "--" then []
    else if takesNext word then
      match words with
      | _ :: next :: rest => plainWords (next :: rest)
      | _ => []
    else if word.isEmpty || word.startsWith "-" then plainWords words
    else word :: plainWords words

/-- The words without the first plain one that is `x`. -/
def withoutFirst (x : String) : List String → List String
  | [] => []
  | word :: words =>
    if word == "--" then word :: words
    else if takesNext word then
      match words with
      | value :: rest => word :: value :: withoutFirst x rest
      | [] => [word]
    else if word == x then words
    else word :: withoutFirst x words

end ProtoSchema.Command
