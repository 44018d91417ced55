/-!
Sets of characters and maps between characters, given by arithmetic runs of code points.
-/
namespace ProtoSchema.Text

/-- The code points `first`, `first + step`, … up to `last`, written `(first, last, step)`. -/
abbrev Run := Nat × Nat × Nat

/-- Whether the code point `n` stands in the run. -/
def Run.contains (r : Run) (n : Nat) : Bool :=
  r.1 ≤ n && n ≤ r.2.1 && (n - r.1) % r.2.2 == 0

/-- A set of characters as a list of runs in ascending order. -/
abbrev CharSet := List Run

/-- Whether the character belongs to the set. -/
def CharSet.has (s : CharSet) (c : Char) : Bool :=
  s.any fun r => r.contains c.toNat

/-- A run whose code points all move by the same distance, written `(first, last, step, distance)`. -/
abbrev Shift := Nat × Nat × Nat × Int

/-- A map between characters as a list of shifts; other characters stay as they are. -/
abbrev CharMap := List Shift

/-- The image of a character: the first shift that holds it moves it. -/
def CharMap.apply (m : CharMap) (c : Char) : Char :=
  match m.find? fun s => Run.contains (s.1, s.2.1, s.2.2.1) c.toNat with
  | some s => Char.ofNat (Int.toNat (c.toNat + s.2.2.2))
  | none => c

end ProtoSchema.Text
