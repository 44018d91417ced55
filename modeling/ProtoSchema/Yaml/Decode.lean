import ProtoSchema.Text.Quoted
import ProtoSchema.Yaml.Node

/-!
From nodes to values of given types. What does not fit its type is noted as a problem, and decoding
goes on; only what cannot be made sense of stops it. A decoder gives `none` where nothing was set.
-/
namespace ProtoSchema.Yaml

/-- Something in a document that does not fit. -/
inductive Problem where
  | mismatch (line : Nat) (tag text target : String)
  | unknownField (line : Nat) (field target : String)
  | repeatedField (line : Nat) (field target : String)
  | repeatedKey (line : Nat) (key : String) (firstLine : Nat)
deriving Repr, DecidableEq, Inhabited

/-- The text of a node as problems quote it: nothing for collections, and only the start of a long
text. -/
def excerpt (tag text : String) : String :=
  if tag == Tag.seq || tag == Tag.map then text
  else if 10 < text.utf8ByteSize then
    " `" ++ String.ofList (Text.firstOctets 7 text.toList) ++ "...`"
  else " `" ++ text ++ "`"

/-- The wording of a problem. -/
def Problem.message : Problem → String
  | mismatch line tag text target =>
    "line " ++ toString line ++ ": cannot unmarshal " ++ tag ++ excerpt tag text ++ " into " ++ target
  | unknownField line field target =>
    "line " ++ toString line ++ ": field " ++ field ++ " not found in type " ++ target
  | repeatedField line field target =>
    "line " ++ toString line ++ ": field " ++ field ++ " already set in type " ++ target
  | repeatedKey line key firstLine =>
    "line " ++ toString line ++ ": mapping key " ++ Text.quote key ++ " already defined at line "
      ++ toString firstLine

/-- The wording of a list of problems. -/
def Problem.report (problems : List Problem) : String :=
  "yaml: unmarshal errors:" ++ String.join (problems.map fun p => "\n  " ++ p.message)

/-- Why decoding stops: the document makes no sense, or its content is refused. -/
inductive Stop (ε : Type) where
  | malformed
  | refused (reason : ε)
deriving Repr, Inhabited

/-- What decoding looks up: the document, which aliases are not being followed, and how deep nodes
can be nested when aliases are followed, each at most once on the way down. -/
structure Surroundings where
  document : Document
  free : List Nat
  bound : Nat
  inAlias : Bool := false

/-- The surroundings at the start of decoding a document. -/
def Surroundings.ofDocument (document : Document) : Surroundings :=
  let depth := document.anchored.foldl (fun d a => max d a.2.depth) document.root.depth
  { document := document, free := List.range document.aliases,
    bound := (document.aliases + 1) * (depth + 1) }

/-- The surroundings at the start again. -/
def Surroundings.restart (s : Surroundings) : Surroundings :=
  { s with free := List.range s.document.aliases, inAlias := false }

/-- What decoding counts and collects: decoded nodes, those below aliases, and problems, the last
first. -/
structure Tally where
  decoded : Nat := 0
  aliased : Nat := 0
  problems : List Problem := []

/-- Decoding, with refusals of type `ε`. -/
abbrev Decode (ε : Type) := ReaderT Surroundings (StateT Tally (Except (Stop ε)))

namespace Decode

variable {ε α σ : Type}

/-- Stops because the document makes no sense. -/
def malformed : Decode ε α := throw .malformed

/-- Notes a problem. -/
def note (p : Problem) : Decode ε Unit :=
  modify fun t => { t with problems := p :: t.problems }

/-- Whether too many of the decoded nodes come from aliases: more than 99 of 100 in documents of
usual size, fewer from 400000 nodes on, and more than 10 of 100 from 4000000 nodes on. -/
def tooManyAliased (t : Tally) : Bool :=
  100 < t.aliased && 1000 < t.decoded &&
    if t.decoded ≤ 400000 then 99 * t.decoded < 100 * t.aliased
    else if 4000000 ≤ t.decoded then t.decoded < 10 * t.aliased
    else
      (99 * 3600000 - 89 * (t.decoded - 400000)) * t.decoded < 100 * 3600000 * t.aliased

/-- Counts a node. -/
def count : Decode ε Unit := do
  let inAlias := (← read).inAlias
  let t ← get
  let t := { t with
    decoded := t.decoded + 1, aliased := if inAlias then t.aliased + 1 else t.aliased }
  set t
  if tooManyAliased t then malformed

/-- Runs a decoder on its own, as at the start of the document; the result has its problems. -/
def alone (d : Decode ε α) : Decode ε (Except (Stop ε) (α × List Problem)) := do
  let s ← read
  match (d.run s.restart).run {} with
  | .error stop => pure (.error stop)
  | .ok (a, t) => pure (.ok (a, t.problems.reverse))

/-- Decodes a node, or the node that it is an alias of. An alias inside of what it stands for makes
no sense. -/
def visit (n : Node) (decode : Node → Decode ε α) : Decode ε α := do
  count
  match n with
  | .aliasOf _ _ number anchor =>
    let s ← read
    match s.document.anchored.lookup anchor with
    | some target =>
      if s.free.contains number then
        ReaderT.adapt (fun s => { s with free := s.free.erase number, inAlias := true })
          (do count; decode target)
      else malformed
    | none => malformed
  | n => decode n

/-- The tag and value of a scalar. -/
def scalar (tag text : String) : Decode ε (String × Value) := do
  match resolve? tag text with
  | some (found, value) =>
    if found == Tag.binary then
      match Text.ofBase64? text with
      | some s => pure (found, .text s)
      | none => malformed
    else pure (found, value)
  | none => malformed

/-- Notes that a node does not fit the type `target`. -/
def mismatch (n : Node) (target : String) : Decode ε (Option α) := do
  match n with
  | .scalar line tag text => note (.mismatch line tag text target)
  | .sequence line tag _ => note (.mismatch line tag "" target)
  | .mapping line tag _ => note (.mismatch line tag "" target)
  | .aliasOf .. => pure ()
  pure none

/-- Notes every pair of equal keys of a mapping; the result says whether there is one. -/
def noteRepeatedKeys : List (Node × Node) → Decode ε Bool
  | [] => pure false
  | (k, _) :: r => do
    let again := r.filter fun e => k.sameKey e.1
    again.forM fun e => note (.repeatedKey e.1.line e.1.text k.line)
    let more ← noteRepeatedKeys r
    pure (!again.isEmpty || more)

/-- Notes that a mapping does not fit the type `target`, unless its keys are a problem. -/
def mismatchMapping (n : Node) (entries : List (Node × Node)) (target : String) :
    Decode ε (Option α) := do
  if ← noteRepeatedKeys entries then pure none else mismatch n target

/-! ## Scalars and lists -/

/-- Decodes a text; every scalar is one but nothing itself. -/
def text (n : Node) : Decode ε (Option String) :=
  visit n fun n => do
    match n with
    | .scalar _ tag source =>
      match (← scalar tag source).2 with
      | .null => pure none
      | .text s => pure (some s)
      | _ => pure (some source)
    | .mapping _ _ entries => mismatchMapping n entries "string"
    | _ => mismatch n "string"

/-- The truth value of a word. -/
def wordBool? (s : String) : Option Bool :=
  if ["y", "Y", "yes", "Yes", "YES", "on", "On", "ON"].contains s then some true
  else if ["n", "N", "no", "No", "NO", "off", "Off", "OFF"].contains s then some false
  else none

/-- Decodes a truth value. -/
def bool (n : Node) : Decode ε (Option Bool) :=
  visit n fun n => do
    match n with
    | .scalar _ tag source =>
      match (← scalar tag source).2 with
      | .null => pure none
      | .bool b => pure (some b)
      | .text s =>
        match wordBool? s with
        | some b => pure (some b)
        | none => mismatch n "bool"
      | _ => mismatch n "bool"
    | .mapping _ _ entries => mismatchMapping n entries "bool"
    | _ => mismatch n "bool"

/-- A floating-point number as a 64-bit integer: its fraction is dropped, and what is too small is
the least integer, as is the first number past the greatest one. Larger ones and NaN are none. -/
def truncated? (x : Number.Binary64) : Option Int :=
  match x with
  | .nan => none
  | .infinite negative => if negative then some (-0x8000000000000000) else none
  | x =>
    match x.truncate with
    | some n =>
      if n > 0x8000000000000000 then none
      else if n < -0x8000000000000000 || n = 0x8000000000000000 then some (-0x8000000000000000)
      else some n
    | none => none

/-- Decodes an integer. -/
def int (n : Node) : Decode ε (Option Int) :=
  visit n fun n => do
    match n with
    | .scalar _ tag source =>
      match (← scalar tag source).2 with
      | .null => pure none
      | .fixedInt (.int k) => pure (some k.toInt)
      | .float x =>
        match truncated? x with
        | some k => pure (some k)
        | none => mismatch n "int"
      | _ => mismatch n "int"
    | .mapping _ _ entries => mismatchMapping n entries "int"
    | _ => mismatch n "int"

/-- Decodes a list; items that set nothing are left out, and nothing itself is an empty list. -/
def list (target : String) (item : Node → Decode ε (Option α)) (n : Node) :
    Decode ε (Option (List α)) :=
  visit n fun n => do
    match n with
    | .scalar _ tag source =>
      match (← scalar tag source).2 with
      | .null => pure (some [])
      | _ => mismatch n target
    | .sequence _ _ items => some <$> items.filterMapM item
    | .mapping _ _ entries => mismatchMapping n entries target
    | .aliasOf .. => malformed

/-! ## Mappings -/

/-- How the entries of a mapping are taken up. `start` is applied before each mapping that
contributes entries, and `entry` takes up one of them; it gets the keys that are set already, if
other mappings contribute, and gives them back. -/
structure Intake (ε σ : Type) where
  start : σ → σ
  key : Node → Decode ε (Option Value)
  entry : Node → Node → σ → Option (List Value) → Decode ε (σ × Option (List Value))

/-- Takes up the entries of a mapping in order; the result has its last merge value, too. -/
def takeEntries (intake : Intake ε σ) :
    List (Node × Node) → σ → Option (List Value) → Option Node →
      Decode ε (σ × Option (List Value) × Option Node)
  | [], state, seen, merge => pure (state, seen, merge)
  | (k, v) :: r, state, seen, merge => do
    if k.isMerge then takeEntries intake r state seen (some v)
    else
      let (state, seen) ← intake.entry k v state seen
      takeEntries intake r state seen merge

/-- Whether a node is a mapping or an alias of one. -/
def isMergeable (n : Node) : Decode ε Bool := do
  match n with
  | .aliasOf _ _ _ anchor =>
    pure (((← read).document.anchored.lookup anchor).any Node.isMapping)
  | n => pure n.isMapping

/-- Takes up the entries of a mapping: its own first, then those of the mappings merged into it, as
far as their keys are not set yet. Nothing is taken up if keys are repeated. -/
def takeMapping (intake : Intake ε σ) :
    (fuel : Nat) → List (Node × Node) → σ → Option (List Value) →
      Decode ε (Option (σ × Option (List Value)))
  | 0, _, _, _ => malformed
  | fuel + 1, entries, state, seen => do
    if ← noteRepeatedKeys entries then pure none
    else
      let (state, seen, merge) ← takeEntries intake entries (intake.start state) seen none
      match merge with
      | none => pure (some (state, seen))
      | some merge =>
        let keys ← match seen with
          | some keys => pure keys
          | none => entries.filterMapM fun e => intake.key e.1
        let sources ← match merge with
          | .sequence _ _ items => pure items
          | .scalar .. => malformed
          | n => pure [n]
        let (state, keys) ← sources.foldlM (fun result source => do
          if !(← isMergeable source) then malformed
          visit source fun n => do
            match n with
            | .mapping _ _ entries =>
              pure ((← takeMapping intake fuel entries result.1 result.2).getD result)
            | _ => malformed) (state, some keys)
        pure (some (state, if seen.isSome then keys else none))

/-- Marks a key as set; `none` if it was set already. -/
def reserve (k : Value) (seen : Option (List Value)) : Option (Option (List Value)) :=
  match seen with
  | none => some none
  | some keys => if keys.any k.sameKey then none else some (some (k :: keys))

/-! ## Values of any kind -/

/-- Whether all keys of a mapping are texts, merge keys apart. -/
def hasTextKeys (entries : List (Node × Node)) : Decode ε Bool := do
  let anchored := (← read).document.anchored
  let tag (n : Node) : String := match n with
    | .scalar _ tag _ => tag
    | .sequence _ tag _ => tag
    | .mapping _ tag _ => tag
    | .aliasOf .. => ""
  pure (entries.all fun e =>
    let t := match e.1 with
      | .aliasOf _ _ _ anchor => ((anchored.lookup anchor).map tag).getD ""
      | n => tag n
    t == Tag.str || t == Tag.merge)

/-- Sets the entry of a key, in its place or at the end. -/
def setEntry {κ : Type} (same : κ → κ → Bool) (k : κ) (v : Value) :
    List (κ × Value) → List (κ × Value)
  | [] => [(k, v)]
  | e :: r => if same k e.1 then (k, v) :: r else e :: setEntry same k v r

/-- Takes up the entries of a mapping with text keys. -/
def textIntake (value : Node → Decode ε (Option Value)) : Intake ε (List (String × Value)) where
  start := id
  key := value
  entry k v entries seen := do
    match ← text k with
    | none => pure (entries, seen)
    | some k =>
      match reserve (.text k) seen with
      | none => pure (entries, seen)
      | some seen =>
        match ← value v with
        | some v => pure (setEntry (· == ·) k v entries, seen)
        | none => pure (entries, seen)

/-- Takes up the entries of a mapping with keys of any kind. -/
def tableIntake (value : Node → Decode ε (Option Value)) : Intake ε (List (Value × Value)) where
  start := id
  key := value
  entry k v entries seen := do
    match ← value k with
    | none => pure (entries, seen)
    | some k =>
      match reserve k seen with
      | none => pure (entries, seen)
      | some seen =>
        if !k.isKey then malformed
        else
          match ← value v with
          | some v => pure (setEntry Value.sameKey k v entries, seen)
          | none => pure (entries, seen)

/-- Decodes a value of whatever kind the document has. -/
def valueFrom : (fuel : Nat) → Node → Decode ε (Option Value)
  | 0, _ => malformed
  | fuel + 1, n =>
    visit n fun n => do
      match n with
      | .scalar _ tag source => pure (some (← scalar tag source).2)
      | .sequence _ _ items => some <$> Value.list <$> items.filterMapM (valueFrom fuel)
      | .mapping _ _ entries =>
        if ← hasTextKeys entries then
          let taken ← takeMapping (textIntake (valueFrom fuel)) (fuel + 1) entries [] none
          pure (taken.map fun r => .map r.1)
        else
          let taken ← takeMapping (tableIntake (valueFrom fuel)) (fuel + 1) entries [] none
          pure (taken.map fun r => .table r.1)
      | .aliasOf .. => malformed

/-- Decodes a value of whatever kind the document has. -/
def value (n : Node) : Decode ε (Option Value) := do
  valueFrom (← read).bound n

/-! ## Records -/

/-- A field of a record: its key and how its value is set. -/
structure Field (ε α : Type) where
  key : String
  set : Node → α → Decode ε α

/-- A field that keeps its content where its decoder sets nothing. -/
def Field.of {β : Type} (key : String) (decode : Node → Decode ε (Option β)) (put : β → α → α) :
    Field ε α where
  key := key
  set n a := do
    match ← decode n with
    | some b => pure (put b a)
    | none => pure a

/-- Takes up the entries of a mapping as fields of a record. Fields that it does not have are a
problem if `strict`. The state has the record and the fields set so far. -/
def recordIntake (target : String) (strict : Bool) (fields : List (Field ε α)) :
    Intake ε (α × List String) where
  start state := (state.1, [])
  key := value
  entry k v state seen := do
    match ← text k with
    | none => pure (state, seen)
    | some name =>
      match reserve (.text name) seen with
      | none => pure (state, seen)
      | some seen =>
        match fields.find? (·.key == name) with
        | some field =>
          if state.2.contains name then
            note (.repeatedField k.line name target)
            pure (state, seen)
          else
            let record ← field.set v state.1
            pure ((record, name :: state.2), seen)
        | none =>
          if strict then note (.unknownField k.line name target)
          pure (state, seen)

/-- Decodes a record, starting from `empty`. -/
def record (target : String) (strict : Bool) (fields : List (Field ε α)) (empty : α) (n : Node) :
    Decode ε (Option α) :=
  visit n fun n => do
    match n with
    | .scalar _ tag source =>
      match (← scalar tag source).2 with
      | .null => pure none
      | _ => mismatch n target
    | .mapping _ _ entries =>
      let intake := recordIntake target strict fields
      let taken ← takeMapping intake (← read).bound entries (empty, []) none
      pure (taken.map fun r => r.1.1)
    | _ => mismatch n target

end Decode

end ProtoSchema.Yaml
