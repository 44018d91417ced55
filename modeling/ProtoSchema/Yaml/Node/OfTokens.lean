import ProtoSchema.Yaml.Node
import ProtoSchema.Yaml.Token.Scan

/-!
From tokens to the first document of a text. The rest of the text is not looked at, but two tokens
beyond the document must be there.
-/
namespace ProtoSchema.Yaml

/-- What is left to read, the tag handles of the document, and the anchors and aliases so far. -/
structure Reader where
  stream : TokenStream
  handles : List (String × String) := []
  anchors : List (String × Nat) := []
  anchored : List (Nat × Node) := []
  nextAnchor : Nat := 0
  aliases : Nat := 0

/-- A reading that may fail. -/
abbrev Read := StateT Reader (Except SyntaxError)

namespace Read

/-- The next token. Before a broken end of the stream a token can be read only if two more follow
it and it is not undecided. -/
def peek : Read Token := do
  let s := (← get).stream
  match s.fault, s.tokens with
  | none, t :: _ => pure t
  | none, [] => pure ⟨.streamEnd, 0⟩
  | some f, t :: r =>
    let n := r.length + 1
    if n < 3 || n == f.undecided then throw f.cause else pure t
  | some f, [] => throw f.cause

/-- Passes over the next token. -/
def skip : Read Unit :=
  modify fun r => { r with stream := { r.stream with tokens := r.stream.tokens.drop 1 } }

/-- The kind of the token after the next one, which is passed over. -/
def skipPeek : Read Token := do
  skip
  peek

/-- Gives the node that starts here the anchor, if any; the result is the anchor's number. -/
def bindAnchor (name : Option String) : Read (Option Nat) := do
  match name with
  | none => pure none
  | some name =>
    let r ← get
    set { r with anchors := (name, r.nextAnchor) :: r.anchors, nextAnchor := r.nextAnchor + 1 }
    pure (some r.nextAnchor)

/-- Keeps the node under the number of its anchor. -/
def keepAnchored (number : Option Nat) (node : Node) : Read Node := do
  match number with
  | none => pure node
  | some number =>
    modify fun r => { r with anchored := (number, node) :: r.anchored }
    pure node

/-- A node for an alias of a known anchor. -/
def aliasNode (line : Nat) (name : String) : Read Node := do
  let r ← get
  match r.anchors.lookup name with
  | none => throw .unknownAnchor
  | some anchor =>
    set { r with aliases := r.aliases + 1 }
    pure (.aliasOf line name r.aliases anchor)

/-- A scalar that is not there. -/
def emptyScalar (line : Nat) : Node := .scalar (line + 1) Tag.null ""

end Read

/-- The tag that a handle and a suffix write. -/
def fullTag (handle suffix : String) : Read String := do
  if handle.isEmpty then pure suffix
  else
    match (← get).handles.lookup handle with
    | some stem =>
      if (stem ++ suffix).isEmpty then throw .unknownTagHandle else pure (stem ++ suffix)
    | none => throw .unknownTagHandle

/-- The anchor and the tag before a node. -/
structure Properties where
  anchor : Option String := none
  tag : Option (String × String) := none

/-- Reads an anchor and a tag in either order; the result has the token after them. -/
def readProperties (t : Token) : Read (Properties × Token) := do
  match t.kind with
  | .anchor name =>
    let t ← Read.skipPeek
    match t.kind with
    | .tag handle suffix =>
      let t ← Read.skipPeek
      pure ({ anchor := some name, tag := some (handle, suffix) }, t)
    | _ => pure ({ anchor := some name }, t)
  | .tag handle suffix =>
    let t ← Read.skipPeek
    match t.kind with
    | .anchor name =>
      let t ← Read.skipPeek
      pure ({ anchor := some name, tag := some (handle, suffix) }, t)
    | _ => pure ({ tag := some (handle, suffix) }, t)
  | _ => pure ({}, t)

/-- The tag of a scalar: the given one unless it is empty or `!`, else by its text and style. -/
def scalarTag (tag text : String) (style : ScalarStyle) : String :=
  if tag != "" && tag != "!" then Tag.short tag
  else if style != .plain then Tag.str
  else if text == "<<" then Tag.merge
  else (guess "" text).1

/-- The tag of a collection: the given one unless it is empty or `!`. -/
def collectionTag (tag usual : String) : String :=
  if tag != "" && tag != "!" then Tag.short tag else usual

/-- An empty scalar where only a tag or an anchor stands. -/
def bareNode (line : Nat) (tag : String) (anchor : Option String) : Read Node := do
  if anchor.isNone && tag.isEmpty then throw .expectedNode
  else
    let number ← Read.bindAnchor anchor
    Read.keepAnchored number (.scalar line (scalarTag tag "" .plain) "")

mutual

/-- Reads a node. Block collections are read only if `block`, and a block sequence without
indentation of its own only if `indentless`. -/
def readNode : (fuel : Nat) → (block indentless : Bool) → Read Node
  | 0, _, _ => throw .stuck
  | fuel + 1, block, indentless => do
    let first ← Read.peek
    match first.kind with
    | .aliasOf name =>
      let node ← Read.aliasNode (first.line + 1) name
      Read.skip
      pure node
    | _ =>
      let line := first.line + 1
      let (properties, t) ← readProperties first
      let tag ← match properties.tag with
        | some (handle, suffix) => fullTag handle suffix
        | none => pure ""
      match t.kind with
      | .scalar text style =>
        let anchor ← Read.bindAnchor properties.anchor
        Read.skip
        Read.keepAnchored anchor (.scalar line (scalarTag tag text style) text)
      | .flowSequenceStart =>
        let anchor ← Read.bindAnchor properties.anchor
        Read.skip
        let items ← readFlowItems fuel true
        Read.keepAnchored anchor (.sequence line (collectionTag tag Tag.seq) items)
      | .flowMappingStart =>
        let anchor ← Read.bindAnchor properties.anchor
        Read.skip
        let entries ← readFlowEntries fuel true
        Read.keepAnchored anchor (.mapping line (collectionTag tag Tag.map) entries)
      | .blockEntry =>
        if indentless then
          let anchor ← Read.bindAnchor properties.anchor
          let items ← readIndentlessItems fuel
          Read.keepAnchored anchor (.sequence line (collectionTag tag Tag.seq) items)
        else bareNode line tag properties.anchor
      | .blockSequenceStart =>
        if block then
          let anchor ← Read.bindAnchor properties.anchor
          Read.skip
          let items ← readBlockItems fuel
          Read.keepAnchored anchor (.sequence line (collectionTag tag Tag.seq) items)
        else bareNode line tag properties.anchor
      | .blockMappingStart =>
        if block then
          let anchor ← Read.bindAnchor properties.anchor
          Read.skip
          let entries ← readBlockEntries fuel
          Read.keepAnchored anchor (.mapping line (collectionTag tag Tag.map) entries)
        else bareNode line tag properties.anchor
      | _ => bareNode line tag properties.anchor

/-- Reads the items of a block sequence and its end. -/
def readBlockItems : (fuel : Nat) → Read (List Node)
  | 0 => throw .stuck
  | fuel + 1 => do
    let t ← Read.peek
    match t.kind with
    | .blockEntry =>
      let next ← Read.skipPeek
      let item ← match next.kind with
        | .blockEntry => pure (Read.emptyScalar t.line)
        | .blockEnd => pure (Read.emptyScalar t.line)
        | _ => readNode fuel true false
      let items ← readBlockItems fuel
      pure (item :: items)
    | .blockEnd =>
      Read.skip
      pure []
    | _ => throw .expectedEntry

/-- Reads the items of a block sequence that has the indentation of the mapping around it. -/
def readIndentlessItems : (fuel : Nat) → Read (List Node)
  | 0 => throw .stuck
  | fuel + 1 => do
    let t ← Read.peek
    match t.kind with
    | .blockEntry =>
      let next ← Read.skipPeek
      let item ← match next.kind with
        | .blockEntry => pure (Read.emptyScalar t.line)
        | .key => pure (Read.emptyScalar t.line)
        | .value => pure (Read.emptyScalar t.line)
        | .blockEnd => pure (Read.emptyScalar t.line)
        | _ => readNode fuel true false
      let items ← readIndentlessItems fuel
      pure (item :: items)
    | _ => pure []

/-- Reads the key or value after its mark on the line `line` in a block mapping. -/
def readBlockPart : (fuel : Nat) → (line : Nat) → Read Node
  | 0, _ => throw .stuck
  | fuel + 1, line => do
    let t ← Read.skipPeek
    match t.kind with
    | .key => pure (Read.emptyScalar line)
    | .value => pure (Read.emptyScalar line)
    | .blockEnd => pure (Read.emptyScalar line)
    | _ => readNode fuel true true

/-- Reads the entries of a block mapping and its end. -/
def readBlockEntries : (fuel : Nat) → Read (List (Node × Node))
  | 0 => throw .stuck
  | fuel + 1 => do
    let t ← Read.peek
    match t.kind with
    | .key =>
      let key ← readBlockPart fuel t.line
      let t ← Read.peek
      let value ← match t.kind with
        | .value => readBlockPart fuel t.line
        | _ => pure (Read.emptyScalar t.line)
      let entries ← readBlockEntries fuel
      pure ((key, value) :: entries)
    | .blockEnd =>
      Read.skip
      pure []
    | _ => throw .expectedKey

/-- Reads the items of a flow sequence and its end; a comma stands before all but the first. -/
def readFlowItems : (fuel : Nat) → (first : Bool) → Read (List Node)
  | 0, _ => throw .stuck
  | fuel + 1, first => do
    let t ← Read.peek
    match t.kind with
    | .flowSequenceEnd =>
      Read.skip
      pure []
    | kind =>
      let t ←
        if first then pure t
        else if kind == .flowEntry then Read.skipPeek
        else throw .expectedFlowEnd
      match t.kind with
      | .flowSequenceEnd =>
        Read.skip
        pure []
      | .key =>
        let line := t.line + 1
        let entry ← readFlowPair fuel
        let items ← readFlowItems fuel false
        pure (.mapping line Tag.map [entry] :: items)
      | _ =>
        let item ← readNode fuel false false
        let items ← readFlowItems fuel false
        pure (item :: items)

/-- Reads an item of a flow sequence that is a single entry, after its `key` token. A missing key
takes the place of the token that shows that it is missing. -/
def readFlowPair : (fuel : Nat) → Read (Node × Node)
  | 0 => throw .stuck
  | fuel + 1 => do
    let t ← Read.skipPeek
    let missing := t.kind == .value || t.kind == .flowEntry || t.kind == .flowSequenceEnd
    let key ←
      if missing then do
        Read.skip
        pure (Read.emptyScalar t.line)
      else readNode fuel false false
    let t ← Read.peek
    let value ←
      if t.kind == .value then do
        let next ← Read.skipPeek
        if next.kind == .flowEntry || next.kind == .flowSequenceEnd then
          pure (Read.emptyScalar t.line)
        else readNode fuel false false
      else pure (Read.emptyScalar t.line)
    pure (key, value)

/-- Reads the entries of a flow mapping and its end; a comma stands before all but the first. -/
def readFlowEntries : (fuel : Nat) → (first : Bool) → Read (List (Node × Node))
  | 0, _ => throw .stuck
  | fuel + 1, first => do
    let t ← Read.peek
    match t.kind with
    | .flowMappingEnd =>
      Read.skip
      pure []
    | kind =>
      let t ←
        if first then pure t
        else if kind == .flowEntry then Read.skipPeek
        else throw .expectedFlowEnd
      match t.kind with
      | .flowMappingEnd =>
        Read.skip
        pure []
      | .key =>
        let t ← Read.skipPeek
        let key ←
          if t.kind == .value || t.kind == .flowEntry || t.kind == .flowMappingEnd then
            pure (Read.emptyScalar t.line)
          else readNode fuel false false
        let t ← Read.peek
        let value ←
          if t.kind == .value then do
            let next ← Read.skipPeek
            if next.kind == .flowEntry || next.kind == .flowMappingEnd then
              pure (Read.emptyScalar next.line)
            else readNode fuel false false
          else pure (Read.emptyScalar t.line)
        let entries ← readFlowEntries fuel false
        pure ((key, value) :: entries)
      | _ =>
        let key ← readNode fuel false false
        let t ← Read.peek
        let entries ← readFlowEntries fuel false
        pure ((key, Read.emptyScalar t.line) :: entries)

end

/-! ## Documents -/

/-- The handles that every document has. -/
def standardHandles : List (String × String) := [("!", "!"), ("!!", Tag.standardStem)]

/-- Reads directives and sets up the tag handles. -/
def readDirectives : (fuel : Nat) → (versioned : Bool) → Read Unit
  | 0, _ => throw .stuck
  | fuel + 1, versioned => do
    let t ← Read.peek
    match t.kind with
    | .versionDirective major minor =>
      if versioned || major ≠ 1 || minor ≠ 1 then throw .badDirective
      Read.skip
      readDirectives fuel true
    | .tagDirective handle stem =>
      let r ← get
      if (r.handles.lookup handle).isSome then throw .badDirective
      set { r with handles := (handle, stem) :: r.handles }
      Read.skip
      readDirectives fuel versioned
    | _ => modify fun r => { r with handles := r.handles ++ standardHandles }

/-- Reads the root node after `---`. -/
def readRoot (fuel : Nat) : Read Node := do
  let t ← Read.peek
  match t.kind with
  | .versionDirective .. => pure (Read.emptyScalar t.line)
  | .tagDirective .. => pure (Read.emptyScalar t.line)
  | .documentStart => pure (Read.emptyScalar t.line)
  | .documentEnd => pure (Read.emptyScalar t.line)
  | .streamEnd => pure (Read.emptyScalar t.line)
  | _ => readNode fuel true false

/-- Reads the first document; `none` if there is none. -/
def readDocument (fuel : Nat) : Read (Option Document) := do
  let t ← Read.peek
  if t.kind == .streamEnd then pure none
  else
    readDirectives fuel false
    let explicit := match t.kind with
      | .versionDirective .. => true
      | .tagDirective .. => true
      | .documentStart => true
      | _ => false
    let root ←
      if explicit then do
        let t ← Read.peek
        if t.kind != .documentStart then throw .expectedDocumentStart
        Read.skip
        readRoot fuel
      else readNode fuel true false
    let _ ← Read.peek
    let r ← get
    pure (some ⟨root, r.anchored, r.aliases⟩)

/-- The first document of a text; `none` if the text has none. -/
def parse (text : List Char) : Except SyntaxError (Option Document) := do
  let stream := scan text
  let (document, _) ← (readDocument (4 * stream.tokens.length + 8)).run { stream := stream }
  pure document

end ProtoSchema.Yaml
