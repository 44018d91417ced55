import ProtoSchema.Text.Letter

/-!
Suggestions for a mistyped command: the commands that are few edits away, or that start with what
was typed. Upper and lower case are the same here.
-/
namespace ProtoSchema.Command

/-- The octets of a text in lower case. -/
def loweredOctets (s : String) : List UInt8 :=
  (String.ofList (s.toList.map Text.toLower)).toUTF8.toList

/-- The next row of the table of edit distances, for one more octet `a` of the first text. `left`
is the entry that was just made and `corner` the one before in the row above. -/
def distanceRow (a : UInt8) (left corner : Nat) : List UInt8 → List Nat → List Nat
  | b :: bs, up :: row =>
    let entry := if a = b then corner else min (min left up) corner + 1
    entry :: distanceRow a entry up bs row
  | _, _ => []

/-- The rows of the table of edit distances, one after another, starting from a row. -/
def distanceRows (t : List UInt8) (row : List Nat) : List UInt8 → List Nat
  | [] => row
  | a :: s =>
    match row with
    | [] => []
    | corner :: rest =>
      distanceRows t ((corner + 1) :: distanceRow a (corner + 1) corner t rest) s

/-- The fewest octets to insert, delete or replace to make one text the other. -/
def distance (s t : List UInt8) : Nat :=
  (distanceRows t (List.range (t.length + 1)) s).getLastD 0

/-- Whether a command is suggested for a word. -/
def isSuggested (word command : String) : Bool :=
  let w := loweredOctets word
  let c := loweredOctets command
  distance w c ≤ 2 || w.isPrefixOf c

/-- The commands that are suggested for a word. -/
def suggestions (word : String) (commands : List String) : List String :=
  commands.filter (isSuggested word)

end ProtoSchema.Command
