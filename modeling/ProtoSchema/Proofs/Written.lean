import ProtoSchema.Proofs.Casing
import ProtoSchema.Proofs.Obligations

/-!
# What a rendering writes

The lines of every kind of block, said without reference to the state of a rendering, and a
rendering that succeeds as the list of its blocks (`writes_generate`): a service for every accepted
role, a message for every type, the enums, a message for every union, and last a message for every
accepted operation that bundles its parameters, in order and one for one.

The name of a request stands in two places that are far apart. In the line of its operation it is
put down as it is, in the head of its message it is raised a second time. That makes no difference,
whatever the operation is called (`toPascal_requestName`).
-/

namespace ProtoSchema

open Text Proto

/-! ## Blocks -/

/-- The lines of a comment. -/
def Proto.commentText (lead text : String) : List String :=
  (commentLines lead.toList text.toList).map String.ofList

/-- The lines as a text. -/
def Proto.unlines (ls : List String) : String := String.join (ls.map (· ++ "\n"))

/-- A block at the top level with its comment, its head and what stands in it. -/
def Proto.blockText (description head : String) (body : List String) : List String :=
  commentText commentLead description ++ [head ++ " \x7b"] ++ body ++ ["\x7d", ""]

/-- A line in a block with its comment. -/
def Proto.entryText (description line : String) : List String :=
  commentText (indent ++ commentLead) description ++ [indent ++ line]

/-- The lines of a field: with its signature, and the number of its first annotation of the name
`fieldnum`. -/
def Field.WrittenAs (f : Field) (ls : List String) : Prop :=
  ∃ number signature, f.HasNumber number ∧ f.type.signature = .ok signature ∧
    ls = entryText f.description
      (signature ++ " " ++ toSnake f.name ++ " = " ++ toString number ++ ";")

/-- The lines of a message for a type. -/
def TypeDef.WrittenAs (t : TypeDef) (ls : List String) : Prop :=
  ∃ fields, List.Forall₂ Field.WrittenAs t.fields fields ∧
    ls = blockText t.description ("message " ++ toPascal t.name) fields.flatten

/-- The lines of the message that carries an operation's parameters. -/
def Operation.RequestWrittenAs (op : Operation) (ls : List String) : Prop :=
  ∃ fields, List.Forall₂ Field.WrittenAs op.parameters fields ∧
    ls = blockText ("Request for the " ++ toPascal op.name ++ " operation.")
      ("message " ++ op.requestName) fields.flatten

/-- What an operation takes: its own message, or the type of the only parameter of one that is
unary. -/
def Operation.Takes (op : Operation) (type : String) : Prop :=
  (op.bundles = true ∧ type = op.requestName) ∨
    ∃ p, op.unary = true ∧ op.parameters = [p] ∧ p.type.signature = .ok type

/-- What an operation gives. -/
def Operation.Gives (op : Operation) (type : String) : Prop :=
  if op.returnsValue then op.returns.signature = .ok type else type = "Empty"

/-- The lines of an operation. -/
def Operation.WrittenAs (op : Operation) (ls : List String) : Prop :=
  ∃ request response, op.Takes request ∧ op.Gives response ∧
    ls = entryText op.description
      ("rpc " ++ toPascal op.name ++ "(" ++ request ++ ") returns (" ++ response ++ ");")

/-- The lines of a service for a role, with the operations that a filter accepts. -/
def Role.WrittenAs (filter : Filter) (r : Role) (ls : List String) : Prop :=
  ∃ operations,
    List.Forall₂ Operation.WrittenAs (r.operations.filter (filter.acceptsOperation r)) operations ∧
      ls = blockText r.description ("service " ++ r.name) operations.flatten

/-- The lines of an enum. -/
def EnumDef.text (e : EnumDef) : List String :=
  blockText e.description ("enum " ++ toPascal e.name) (e.values.flatMap fun v =>
    entryText v.description (toUpperSnake v.name ++ " = " ++ toString v.index ++ ";"))

/-- The line of a member of a union; members are counted from zero. -/
def TypeExpr.MemberWrittenAs (member : TypeExpr × Nat) (ls : List String) : Prop :=
  ∃ signature, member.1.signature = .ok signature ∧
    ls = [indent ++ indent ++ signature ++ " " ++ toSnake member.1.memberName ++ "_value = " ++
      toString (member.2 + 1) ++ ";"]

/-- The lines of a message for a union. -/
def UnionDef.WrittenAs (u : UnionDef) (ls : List String) : Prop :=
  ∃ members, List.Forall₂ TypeExpr.MemberWrittenAs u.types.zipIdx members ∧
    ls = blockText u.description ("message " ++ toPascal u.name)
      ([indent ++ "oneof oneof \x7b"] ++ members.flatten ++ [indent ++ "\x7d"])

/-- The accepted operations that bundle their parameters. -/
def Filter.bundling (f : Filter) (roles : List Role) : List Operation :=
  ((f.accepted roles).filter fun x => x.2.bundles).map Prod.snd

/-- The lines of a schema: its sections one after another. -/
def Schema.WrittenAs (o : Options) (s : Schema) (ls : List String) : Prop :=
  ∃ services types unions requests,
    List.Forall₂ (Role.WrittenAs o.filterOrAll) (s.roles.filter o.filterOrAll.acceptsRole)
        services ∧
      List.Forall₂ TypeDef.WrittenAs s.types types ∧
      List.Forall₂ UnionDef.WrittenAs s.unions unions ∧
      List.Forall₂ Operation.RequestWrittenAs (o.filterOrAll.bundling s.roles) requests ∧
      ls = (header o s : Output RenderError).lines ++ services.flatten ++ types.flatten ++
        s.enums.flatMap EnumDef.text ++ unions.flatten ++ requests.flatten

/-! ## Names of requests -/

/-- The name of a request is raised already. -/
theorem toPascal_requestName (op : Operation) : toPascal op.requestName = op.requestName :=
  toPascal_append (by decide +kernel) (by decide +kernel) op.name

theorem requestWrittenAs_iff {op : Operation} {ls : List String} :
    op.RequestWrittenAs ls ↔ op.request.WrittenAs ls := by
  unfold Operation.RequestWrittenAs TypeDef.WrittenAs
  rw [show toPascal op.request.name = op.requestName from toPascal_requestName op]
  rfl

namespace Proto

open Output

/-! ## Blocks as they are written -/

variable {ε : Type} {ls : List String}

theorem writes_entry {description line : String} :
    ((Output.comment (indent ++ commentLead) description).andThen
      (Output.line (indent ++ line)) : Output ε).Writes ls ↔ ls = entryText description line := by
  rw [writes_andThen]
  constructor
  · rintro ⟨as, bs, ha, hb, rfl⟩
    rw [writes_comment.mp ha, writes_line.mp hb]
    rfl
  · rintro rfl
    exact ⟨_, _, writes_comment.mpr rfl, writes_line.mpr rfl, rfl⟩

theorem writes_block {description head : String} {body : Output ε} :
    (sequence [.comment commentLead description, .line (head ++ " \x7b"), body,
      blockEnd]).Writes ls ↔
        ∃ inner, body.Writes inner ∧ ls = blockText description head inner := by
  simp only [sequence_cons, sequence_nil, andThen_empty, writes_andThen]
  constructor
  · rintro ⟨as, _, ha, ⟨bs, _, hb, ⟨inner, ds, hc, hd, rfl⟩, rfl⟩, rfl⟩
    rw [writes_comment.mp ha, writes_line.mp hb, writes_ofLines.mp hd]
    exact ⟨inner, hc, by simp only [blockText, commentText, List.append_assoc]⟩
  · rintro ⟨inner, hc, rfl⟩
    refine ⟨_, _, writes_comment.mpr rfl, ⟨_, _, writes_line.mpr rfl,
      ⟨inner, _, hc, writes_ofLines.mpr rfl, rfl⟩, rfl⟩, ?_⟩
    simp only [blockText, commentText, List.append_assoc]

theorem writes_fieldLines {f : Field} : (fieldLines f).Writes ls ↔ f.WrittenAs ls := by
  simp only [fieldLines, writes_withResult, mapError_eq_ok, fieldNumber_eq_ok, String.append_assoc,
    writes_entry]
  constructor
  · rintro ⟨number, hnumber, signature, hsignature, rfl⟩
    exact ⟨number, signature, hnumber, hsignature, by simp only [String.append_assoc]⟩
  · rintro ⟨number, signature, hnumber, hsignature, rfl⟩
    exact ⟨number, hnumber, signature, hsignature, by simp only [String.append_assoc]⟩

theorem writes_messageBlock {t : TypeDef} : (messageBlock t).Writes ls ↔ t.WrittenAs ls := by
  unfold messageBlock
  rw [writes_block]
  simp only [writes_all, writes_mapFailure, writes_fieldLines]
  constructor
  · rintro ⟨_, ⟨fields, hfields, rfl⟩, rfl⟩
    exact ⟨fields, hfields, rfl⟩
  · rintro ⟨fields, hfields, rfl⟩
    exact ⟨_, ⟨fields, hfields, rfl⟩, rfl⟩

theorem responseType_eq_ok {op : Operation} {type : String} :
    responseType op = .ok type ↔ op.Gives type := by
  unfold responseType Operation.Gives
  split
  · rfl
  · rw [Except.ok.injEq, eq_comm]

theorem writes_rpcLine {op : Operation} {request : String} :
    (rpcLine op request).Writes ls ↔ ∃ response, op.Gives response ∧
      ls = entryText op.description
        ("rpc " ++ toPascal op.name ++ "(" ++ request ++ ") returns (" ++ response ++ ");") := by
  simp only [rpcLine, writes_withResult, responseType_eq_ok, String.append_assoc, writes_entry]

theorem writes_operationLines {op : Operation} :
    (operationLines op).Writes ls ↔ op.WrittenAs ls := by
  unfold Operation.WrittenAs Operation.Takes
  cases h : op.soleParameter with
  | some p =>
    obtain ⟨hunary, hparameters⟩ := Operation.soleParameter_eq_some.mp h
    rw [operationLines_of_sole h, writes_withResult]
    simp only [writes_rpcLine, Operation.not_bundles_of_sole h, hunary, hparameters]
    simp
  | none =>
    have hbundles := Operation.soleParameter_eq_none.mp h
    have hnot (p : Field) : ¬ (op.unary = true ∧ op.parameters = [p]) := by
      rintro ⟨hunary, hparameters⟩
      exact Operation.bundles_iff.mp hbundles ⟨hunary, by rw [hparameters]; rfl⟩
    -- the request is only queued, so all that is written here is the line
    rw [operationLines_of_bundles hbundles, writes_andThen_of_nil ⟨rfl, rfl⟩, writes_rpcLine]
    constructor
    · rintro ⟨response, hresponse, rfl⟩
      exact ⟨_, response, .inl ⟨hbundles, rfl⟩, hresponse, rfl⟩
    · rintro ⟨_, response, ⟨-, rfl⟩ | ⟨p, hunary, hparameters, -⟩, hresponse, rfl⟩
      · exact ⟨response, hresponse, rfl⟩
      · exact absurd ⟨hunary, hparameters⟩ (hnot p)

theorem writes_serviceBlock {filter : Filter} {r : Role} :
    (serviceBlock filter r).Writes ls ↔ r.WrittenAs filter ls := by
  unfold serviceBlock
  rw [writes_block]
  simp only [writes_all_skip, writes_mapFailure, writes_operationLines]
  constructor
  · rintro ⟨_, ⟨operations, hoperations, rfl⟩, rfl⟩
    exact ⟨operations, hoperations, rfl⟩
  · rintro ⟨operations, hoperations, rfl⟩
    exact ⟨_, ⟨operations, hoperations, rfl⟩, rfl⟩

theorem writes_enumBlock {e : EnumDef} : (enumBlock e : Output ε).Writes ls ↔ ls = e.text := by
  have hvalue (v : EnumValue) (ls : List String) :
      ((Output.comment (indent ++ commentLead) v.description).andThen
        (.line (indent ++ toUpperSnake v.name ++ " = " ++ toString v.index ++ ";")) :
          Output ε).Writes ls ↔
        ls = entryText v.description (toUpperSnake v.name ++ " = " ++ toString v.index ++ ";") := by
    simp only [String.append_assoc, writes_entry]
  unfold enumBlock
  rw [writes_block]
  simp only [writes_all_of_total hvalue, exists_eq_left]
  rfl

theorem writes_memberLine {m : TypeExpr × Nat} :
    (memberLine m).Writes ls ↔ TypeExpr.MemberWrittenAs m ls := by
  simp only [memberLine, writes_withResult, writes_line]
  rfl

theorem writes_unionBlock {u : UnionDef} : (unionBlock u).Writes ls ↔ u.WrittenAs ls := by
  simp only [unionBlock, sequence_cons, sequence_nil, andThen_empty, writes_andThen, writes_all,
    writes_mapFailure, writes_memberLine]
  constructor
  · rintro ⟨as, _, ha, ⟨bs, _, hb, ⟨cs, _, hc, ⟨_, _, ⟨members, hmembers, rfl⟩,
      ⟨es, fs, he, hf, rfl⟩, rfl⟩, rfl⟩, rfl⟩, rfl⟩
    rw [writes_comment.mp ha, writes_line.mp hb, writes_line.mp hc, writes_line.mp he,
      writes_ofLines.mp hf]
    exact ⟨members, hmembers, by simp only [blockText, commentText, List.append_assoc]⟩
  · rintro ⟨members, hmembers, rfl⟩
    refine ⟨_, _, writes_comment.mpr rfl, ⟨_, _, writes_line.mpr rfl, ⟨_, _, writes_line.mpr rfl,
      ⟨_, _, ⟨members, hmembers, rfl⟩, ⟨_, _, writes_line.mpr rfl, writes_ofLines.mpr rfl, rfl⟩,
      rfl⟩, rfl⟩, rfl⟩, ?_⟩
    simp only [blockText, commentText, List.append_assoc]

/-! ## Schemas as they are written -/

theorem requestsOf_accepted (f : Filter) (roles : List Role) :
    requestsOf (f.accepted roles) = (f.bundling roles).map Operation.request := by
  rw [requestsOf, Filter.bundling, List.map_map]
  rfl

/-- Once the declarations are written, the queue holds the request of every operation that
bundles. -/
theorem requests_of_declarations {o : Options} {s : Schema}
    (h : (declarations o s).failure = none) :
    (declarations o s).requests = (o.filterOrAll.bundling s.roles).map Operation.request := by
  rw [failure_declarations, Option.or_eq_none_iff] at h
  rw [requests_declarations, (makes_services o.filterOrAll s.roles).complete h.1,
    requestsOf_accepted]

theorem writes_services {filter : Filter} {roles : List Role} :
    (services filter roles).Writes ls ↔ ∃ blocks,
      List.Forall₂ (Role.WrittenAs filter) (roles.filter filter.acceptsRole) blocks ∧
        ls = blocks.flatten := by
  unfold services
  rw [writes_all_skip]
  simp only [writes_serviceBlock]

theorem writes_declarations {o : Options} {s : Schema} :
    (declarations o s).Writes ls ↔ ∃ services types unions,
      List.Forall₂ (Role.WrittenAs o.filterOrAll) (s.roles.filter o.filterOrAll.acceptsRole)
          services ∧
        List.Forall₂ TypeDef.WrittenAs s.types types ∧
        List.Forall₂ UnionDef.WrittenAs s.unions unions ∧
        ls = (header o s : Output RenderError).lines ++ services.flatten ++ types.flatten ++
          s.enums.flatMap EnumDef.text ++ unions.flatten := by
  have henums : ∀ (e : EnumDef) (ls : List String),
      (enumBlock e : Output RenderError).Writes ls ↔ ls = e.text := fun e ls => writes_enumBlock
  simp only [declarations, sequence_cons, sequence_nil, andThen_empty, writes_andThen,
    writes_services, writes_all_of_total henums, writes_all, writes_messageBlock,
    writes_unionBlock]
  constructor
  · rintro ⟨_, _, hheader, ⟨_, _, ⟨services, hservices, rfl⟩, ⟨_, _, ⟨types, htypes, rfl⟩,
      ⟨_, _, rfl, ⟨unions, hunions, rfl⟩, rfl⟩, rfl⟩, rfl⟩, rfl⟩
    refine ⟨services, types, unions, hservices, htypes, hunions, ?_⟩
    simp only [← hheader.eq, List.append_assoc]
  · rintro ⟨services, types, unions, hservices, htypes, hunions, rfl⟩
    refine ⟨_, _, writes_lines rfl, ⟨_, _, ⟨services, hservices, rfl⟩, ⟨_, _, ⟨types, htypes, rfl⟩,
      ⟨_, _, rfl, ⟨unions, hunions, rfl⟩, rfl⟩, rfl⟩, rfl⟩, ?_⟩
    simp only [List.append_assoc]

/-- A rendering succeeds and writes these lines exactly if they are lines of the schema. -/
theorem writes_generate {o : Options} {s : Schema} :
    (generate o s).Writes ls ↔ s.WrittenAs o ls := by
  simp only [generate, writes_andThen, writes_all, writes_messageBlock]
  constructor
  · rintro ⟨_, _, hdeclarations, ⟨requests, hrequests, rfl⟩, rfl⟩
    rw [requests_of_declarations hdeclarations.ok, List.forall₂_map_left_iff] at hrequests
    simp only [← requestWrittenAs_iff] at hrequests
    obtain ⟨services, types, unions, hservices, htypes, hunions, rfl⟩ :=
      writes_declarations.mp hdeclarations
    exact ⟨services, types, unions, requests, hservices, htypes, hunions, hrequests, rfl⟩
  · rintro ⟨services, types, unions, requests, hservices, htypes, hunions, hrequests, rfl⟩
    have hdeclarations : (declarations o s).Writes _ :=
      writes_declarations.mpr ⟨services, types, unions, hservices, htypes, hunions, rfl⟩
    refine ⟨_, _, hdeclarations, ⟨requests, ?_, rfl⟩, rfl⟩
    rw [requests_of_declarations hdeclarations.ok, List.forall₂_map_left_iff]
    simp only [← requestWrittenAs_iff]
    exact hrequests

theorem render_eq_ok {o : Options} {s : Schema} {text : String} :
    render o s = .ok text ↔ ∃ ls, s.WrittenAs o ls ∧ text = unlines ls := by
  have hrender : render o s = .ok text ↔ (generate o s).failure = none ∧
      (generate o s).text = text := by
    simp only [render]
    split <;> simp_all
  rw [hrender]
  constructor
  · rintro ⟨hok, rfl⟩
    exact ⟨_, writes_generate.mp (writes_lines hok), rfl⟩
  · rintro ⟨ls, hls, rfl⟩
    have hwrites := writes_generate.mpr hls
    exact ⟨hwrites.ok, by rw [← hwrites.eq]; rfl⟩

theorem takes_of_bundles {op : Operation} (h : op.bundles = true) {type : String} :
    op.Takes type ↔ type = op.requestName := by
  constructor
  · rintro (⟨-, rfl⟩ | ⟨p, hunary, hparameters, -⟩)
    · rfl
    · exact absurd ⟨hunary, by rw [hparameters]; rfl⟩ (Operation.bundles_iff.mp h)
  · rintro rfl
    exact .inl ⟨h, rfl⟩

/-- The text of a rendering that succeeds ends, after the blocks of the unions, with the messages of
the accepted operations that bundle their parameters: in order, one for one, and with the parameters
as fields. Such an operation takes a type of exactly the name that its message has, and that name is
not changed by raising it again. -/
theorem render_request_blocks {o : Options} {s : Schema} {text : String}
    (h : render o s = .ok text) :
    ∃ services types unions requests,
      List.Forall₂ (Role.WrittenAs o.filterOrAll) (s.roles.filter o.filterOrAll.acceptsRole)
          services ∧
        List.Forall₂ TypeDef.WrittenAs s.types types ∧
        List.Forall₂ UnionDef.WrittenAs s.unions unions ∧
        List.Forall₂ Operation.RequestWrittenAs (o.filterOrAll.bundling s.roles) requests ∧
        text = unlines ((header o s : Output RenderError).lines ++ services.flatten ++
          types.flatten ++ s.enums.flatMap EnumDef.text ++ unions.flatten ++ requests.flatten) ∧
        (∀ op ∈ o.filterOrAll.bundling s.roles, ∀ type, op.Takes type ↔ type = op.requestName) ∧
        ∀ name, toPascal (toPascal name ++ "Request") = toPascal name ++ "Request" := by
  obtain ⟨ls, hls, rfl⟩ := render_eq_ok.mp h
  obtain ⟨services, types, unions, requests, hservices, htypes, hunions, hrequests, rfl⟩ := hls
  refine ⟨services, types, unions, requests, hservices, htypes, hunions, hrequests, rfl, ?_, ?_⟩
  · intro op hop type
    obtain ⟨x, hx, rfl⟩ := List.mem_map.mp hop
    exact takes_of_bundles (List.mem_filter.mp hx).2
  · intro name
    exact toPascal_requestName { name := name }

/-- Two roles with a request each, one for an operation that is named by separators alone, and an
operation between them that makes none. -/
theorem render_request_blocks_separators :
    let number : Annotation := { name := "fieldnum", value := .integer .int 7 }
    let x : Field := { name := "someId", type := .named "i64", annotations := [number] }
    let first : Operation := { name := "_-.", parameters := [x] }
    let second : Operation := { name := "find all", unary := true, parameters := [x, x] }
    let plain : Operation := { name := "get", unary := true, parameters := [x] }
    let s : Schema := {
      space := { name := "demo" }
      roles := [
        { name := "A", operations := [first, plain] }, { name := "B", operations := [second] }] }
    ∃ text, render {} s = .ok text ∧
      ∃ before requests, List.Forall₂ Operation.RequestWrittenAs [first, second] requests ∧
        text = unlines (before ++ requests.flatten) ∧ first.Takes "Request" ∧
          second.Takes "FindAllRequest" := by
  intro number x first second plain s
  have hok : (generate {} s).failure = none := Option.isNone_iff_eq_none.mp (by decide +kernel)
  obtain ⟨text, htext⟩ := exists_render_eq_ok.mpr hok
  obtain ⟨services, types, unions, requests, -, -, -, hrequests, heq, htakes, -⟩ :=
    render_request_blocks htext
  have hbundling : Filter.bundling (Options.filterOrAll {}) s.roles = [first, second] := rfl
  rw [hbundling] at hrequests htakes
  have hfirst : "Request" = first.requestName := by decide +kernel
  have hsecond : "FindAllRequest" = second.requestName := by decide +kernel
  exact ⟨text, htext, _, requests, hrequests, heq, (htakes first (by simp) _).mpr hfirst,
    (htakes second (by simp) _).mpr hsecond⟩

end Proto

end ProtoSchema
