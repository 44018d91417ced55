import Mathlib.Tactic.MkIffOfInductiveProp
import ProtoSchema.Proofs.Annotations
import ProtoSchema.Proofs.Parsing
import ProtoSchema.Proofs.Written

/-!
# Schemas as tokens

The tokens of a schema, said part by part without reference to text, and what is asked of its names,
types and numbers for its text to be made of these tokens (`Schema.WellFormed`). Nothing is asked of
roles and operations that are not accepted, and of descriptions only that they hold no NUL.

A rendering of a well-formed schema is read as the schema's tokens (`readAs_schema`). Comments and
blank lines are read as nothing, so what is written between the lines of a declaration makes no
difference.
-/

namespace ProtoSchema

open Text Proto

/-! ## The tokens of a schema -/

namespace TypeExpr

/-- The parts of the name that a named type has in proto text. -/
def parts : TypeExpr → List String
  | named name => Proto.parts (protoName name)
  | _ => []

/-- The tokens of a type. -/
def tokens : TypeExpr → List Token
  | list element => .word "repeated" :: element.tokens
  | optional inner => .word "optional" :: inner.tokens
  | map key value =>
    [.word "map", .symbol '<'] ++ key.tokens ++ [.symbol ','] ++ value.tokens ++ [.symbol '>']
  | t => pathTokens t.parts

/-- The field of a member of a union. -/
def memberTokens (member : TypeExpr × Nat) : List Token :=
  member.1.tokens ++ fieldEnd (toSnake member.1.memberName ++ "_value") (member.2 + 1)

end TypeExpr

/-- The number of a field, zero if it has none. -/
def Field.number (f : Field) : Nat := ((fieldNumber f).toOption.getD 0).natAbs

/-- The tokens of a field. -/
def Field.tokens (f : Field) : List Token := f.type.tokens ++ fieldEnd (toSnake f.name) f.number

/-- The parts of the name of the type that an operation takes. -/
def Operation.requestParts (op : Operation) : List String :=
  match op.soleParameter with
  | some p => p.type.parts
  | none => [op.requestName]

/-- The parts of the name of the type that an operation gives. -/
def Operation.responseParts (op : Operation) : List String :=
  if op.returnsValue then op.returns.parts else ["Empty"]

/-- The tokens of an operation. -/
def Operation.tokens (op : Operation) : List Token :=
  rpcTokens (toPascal op.name) op.requestParts op.responseParts

/-- The tokens of a service for a role, with the operations that a filter accepts. -/
def Role.tokens (filter : Filter) (r : Role) : List Token :=
  blockTokens "service" r.name
    ((r.operations.filter (filter.acceptsOperation r)).flatMap Operation.tokens)

/-- The tokens of a message for a type. -/
def TypeDef.tokens (t : TypeDef) : List Token :=
  blockTokens "message" (toPascal t.name) (t.fields.flatMap Field.tokens)

/-- The tokens of a value of an enum. -/
def EnumValue.tokens (v : EnumValue) : List Token := valueTokens (toUpperSnake v.name) v.index

/-- The tokens of an enum. -/
def EnumDef.tokens (e : EnumDef) : List Token :=
  blockTokens "enum" (toPascal e.name) (e.values.flatMap EnumValue.tokens)

/-- The tokens of a message for a union. -/
def UnionDef.tokens (u : UnionDef) : List Token :=
  blockTokens "message" (toPascal u.name)
    (blockTokens "oneof" "oneof" (u.types.zipIdx.flatMap TypeExpr.memberTokens))

/-- The declarations of a schema in order, each with its tokens. -/
def Schema.declared (o : Options) (s : Schema) : List (List Token × Declaration) :=
  [(packageTokens (parts (o.packageFor s)), .package (o.packageFor s))] ++
    (if o.goPackage.isEmpty then [] else [(optionTokens "go_package", .other)]) ++
    ((s.roles.filter o.filterOrAll.acceptsRole).map fun r =>
      (r.tokens o.filterOrAll, .service r.name)) ++
    (s.types.map fun t => (t.tokens, .message (toPascal t.name))) ++
    (s.enums.map fun e => (e.tokens, .enum (toPascal e.name))) ++
    (s.unions.map fun u => (u.tokens, .message (toPascal u.name))) ++
    ((o.filterOrAll.bundling s.roles).map fun op => (op.request.tokens, .message op.requestName))

/-- The tokens of a schema. -/
def Schema.tokens (o : Options) (s : Schema) : List Token :=
  versionTokens ++ (s.declared o).flatMap Prod.fst

/-! ## Well-formed schemas -/

/-- Whether a name can be given for a type: it is a scalar's, or words with points between them. -/
def isTypeName (name : String) : Bool :=
  (scalarNames.lookup name).isSome || (isPath name && isTypePath (parts name))

/-- The scalars that can be keys of maps. -/
def keyNames : List String :=
  ["i8", "i16", "i32", "i64", "u8", "u16", "u32", "u64", "string", "boolean"]

namespace TypeExpr

/-- Whether the type is given by a name. -/
def isNamed : TypeExpr → Bool
  | named name => isTypeName name
  | _ => false

/-- Whether a field can have the type. -/
def fitsField : TypeExpr → Bool
  | list element => element.isNamed
  | optional inner => inner.isNamed
  | map (named key) value => keyNames.contains key && value.isNamed
  | t => t.isNamed

end TypeExpr

/-- A text without NUL. -/
def WithoutNul (description : String) : Prop := '\x00' ∉ description.toList

instance (description : String) : Decidable (WithoutNul description) :=
  inferInstanceAs (Decidable (¬ _))

/-- A field that can be written: its number is positive. -/
@[mk_iff]
structure Field.WellFormed (f : Field) : Prop where
  description : WithoutNul f.description
  name : isWord (toSnake f.name).toList = true
  type : f.type.fitsField = true
  number : ∃ n, f.HasNumber n ∧ 0 < n

theorem Field.exists_positive_iff {f : Field} :
    (∃ n, f.HasNumber n ∧ 0 < n) ↔ 0 < (fieldNumber f).toOption.getD 0 := by
  simp only [← fieldNumber_eq_ok]
  cases fieldNumber f with
  | error e => simp [Except.toOption]
  | ok n => simp [Except.toOption]

instance (f : Field) : Decidable f.WellFormed :=
  have : Decidable (∃ n, f.HasNumber n ∧ 0 < n) := decidable_of_iff' _ Field.exists_positive_iff
  decidable_of_iff' _ (Field.wellFormed_iff f)

/-- An operation that can be written: with a name for a type as its only parameter, or with fields
for a message, and with a name for a type or nothing as its result. -/
@[mk_iff]
structure Operation.WellFormed (op : Operation) : Prop where
  description : WithoutNul op.description
  name : isWord (toPascal op.name).toList = true
  sole : ∀ p ∈ op.soleParameter, p.type.isNamed = true
  parameters : op.bundles = true → ∀ p ∈ op.parameters, p.WellFormed
  returns : op.returnsValue = true → op.returns.isNamed = true

instance (op : Operation) : Decidable op.WellFormed :=
  decidable_of_iff' _ (Operation.wellFormed_iff op)

/-- A role that can be written, as far as its operations are accepted. -/
@[mk_iff]
structure Role.WellFormed (filter : Filter) (r : Role) : Prop where
  description : WithoutNul r.description
  name : isWord r.name.toList = true
  operations : ∀ op ∈ r.operations, filter.acceptsOperation r op = true → op.WellFormed

instance (filter : Filter) (r : Role) : Decidable (r.WellFormed filter) :=
  decidable_of_iff' _ (Role.wellFormed_iff filter r)

/-- A type that can be written. -/
@[mk_iff]
structure TypeDef.WellFormed (t : TypeDef) : Prop where
  description : WithoutNul t.description
  name : isWord (toPascal t.name).toList = true
  fields : ∀ f ∈ t.fields, f.WellFormed

instance (t : TypeDef) : Decidable t.WellFormed := decidable_of_iff' _ (TypeDef.wellFormed_iff t)

/-- A value of an enum that can be written. -/
@[mk_iff]
structure EnumValue.WellFormed (v : EnumValue) : Prop where
  description : WithoutNul v.description
  name : isWord (toUpperSnake v.name).toList = true ∧ toUpperSnake v.name ∉ valueKeywords
  index : v.index.natAbs < Token.integerLimit

instance (v : EnumValue) : Decidable v.WellFormed :=
  decidable_of_iff' _ (EnumValue.wellFormed_iff v)

/-- An enum that can be written. -/
@[mk_iff]
structure EnumDef.WellFormed (e : EnumDef) : Prop where
  description : WithoutNul e.description
  name : isWord (toPascal e.name).toList = true
  values : ∀ v ∈ e.values, v.WellFormed

instance (e : EnumDef) : Decidable e.WellFormed := decidable_of_iff' _ (EnumDef.wellFormed_iff e)

/-- A union that can be written. The members are numbered, so there are not too many of them. -/
@[mk_iff]
structure UnionDef.WellFormed (u : UnionDef) : Prop where
  description : WithoutNul u.description
  name : isWord (toPascal u.name).toList = true
  members : ∀ t ∈ u.types, t.isNamed = true
  size : u.types.length < Token.integerLimit

instance (u : UnionDef) : Decidable u.WellFormed := decidable_of_iff' _ (UnionDef.wellFormed_iff u)

/-- The names, types and numbers of a schema are such as proto text can hold. Enums and unions may
be empty. -/
@[mk_iff]
structure Schema.WellFormed (o : Options) (s : Schema) : Prop where
  package : isPath (o.packageFor s) = true
  goPackage : o.goPackage.toList.all isLiteralChar = true
  roles : ∀ r ∈ s.roles, o.filterOrAll.acceptsRole r = true → r.WellFormed o.filterOrAll
  types : ∀ t ∈ s.types, t.WellFormed
  enums : ∀ e ∈ s.enums, e.WellFormed
  unions : ∀ u ∈ s.unions, u.WellFormed

instance (o : Options) (s : Schema) : Decidable (s.WellFormed o) :=
  decidable_of_iff' _ (Schema.wellFormed_iff o s)

theorem Schema.WellFormed.bundling {o : Options} {s : Schema} (h : s.WellFormed o) {op : Operation}
    (hop : op ∈ o.filterOrAll.bundling s.roles) : op.WellFormed ∧ op.bundles = true := by
  obtain ⟨⟨r, op⟩, hx, rfl⟩ := List.mem_map.mp hop
  obtain ⟨haccepted, hbundles⟩ := List.mem_filter.mp hx
  obtain ⟨hr, hrole, hmem, hoperation⟩ := Filter.mem_accepted.mp haccepted
  exact ⟨(h.roles r hr hrole).operations op hmem hoperation, hbundles⟩

/-! ## Lines as tokens -/

namespace Proto

/-- The lines are read as these tokens, whatever follows them. -/
def ReadAs (ls : List String) (ts : List Token) : Prop :=
  ∀ rest, tokens ((unlines ls).toList ++ rest) = ts ++ tokens rest

theorem readAs_nil : ReadAs [] [] := fun _ => rfl

theorem readAs_line {l : String} {ts : List Token}
    (h : ∀ rest, tokens (l.toList ++ '\n' :: rest) = ts ++ tokens rest) : ReadAs [l] ts := by
  intro rest
  have htext : (unlines [l]).toList ++ rest = l.toList ++ '\n' :: rest := by
    simp [unlines, String.join_cons]
  rw [htext, h]

theorem ReadAs.append {as bs : List String} {ts us : List Token} (ha : ReadAs as ts)
    (hb : ReadAs bs us) : ReadAs (as ++ bs) (ts ++ us) := by
  intro rest
  have htext : (unlines (as ++ bs)).toList = (unlines as).toList ++ (unlines bs).toList := by
    simp [unlines, String.join_append]
  rw [htext, List.append_assoc, ha, hb, List.append_assoc]

variable {α : Type}

theorem readAs_flatten {R : α → List String → Prop} {f : α → List Token} {xs : List α}
    {blocks : List (List String)} (h : List.Forall₂ R xs blocks)
    (hread : ∀ x ∈ xs, ∀ ls, R x ls → ReadAs ls (f x)) :
    ReadAs blocks.flatten (xs.flatMap f) := by
  induction h with
  | nil => exact readAs_nil
  | @cons x ls xs blocks hx _ ih =>
    exact (hread x List.mem_cons_self ls hx).append
      (ih fun y hy => hread y (List.mem_cons_of_mem x hy))

theorem readAs_flatMap {g : α → List String} {f : α → List Token} {xs : List α}
    (h : ∀ x ∈ xs, ReadAs (g x) (f x)) : ReadAs (xs.flatMap g) (xs.flatMap f) := by
  have hforall : List.Forall₂ (fun x ls => ls = g x) xs (xs.map g) := by
    simp [List.forall₂_map_right_iff, List.forall₂_same]
  rw [List.flatMap_def]
  exact readAs_flatten hforall fun x hx ls hls => hls ▸ h x hx

theorem readAs_blank : ReadAs [""] [] := readAs_line fun rest => tokens_newline rest

/-- Comments are read as nothing. -/
theorem readAs_comment {lead description : String} (hlead : IsCommentLead lead.toList)
    (h : WithoutNul description) : ReadAs (commentText lead description) [] := by
  obtain ⟨v, hv, hbare⟩ := hlead
  have hline : ∀ l ∈ commentLines lead.toList description.toList,
      ReadAs [String.ofList l] [] := by
    intro l hl
    obtain ⟨t, rfl, ht⟩ := mem_commentLines hl
    have hplain : ∀ c ∈ t, c ≠ '\n' ∧ c ≠ '\x00' := by
      intro c hc
      rcases ht c hc with rfl | ⟨hmem, hspace⟩
      · decide
      · refine ⟨?_, fun hnul => h (hnul ▸ hmem)⟩
        rintro rfl
        exact absurd hspace (by decide)
    refine readAs_line fun rest => ?_
    rw [String.toList_ofList, hbare, List.append_assoc, List.append_assoc, tokens_spaces hv]
    exact tokens_comment hplain rest
  have hlines := readAs_flatMap (f := fun _ => []) hline
  rwa [← List.map_eq_flatMap, List.flatMap_eq_nil_iff.mpr fun _ _ => rfl] at hlines

theorem eq_space_of_mem_indent {c : Char} (h : c ∈ indent.toList) : c = ' ' := by
  simpa [indent] using h

theorem readAs_entry {description line : String} {ts : List Token} (h : WithoutNul description)
    (hline : ∀ rest, tokens (line.toList ++ '\n' :: rest) = ts ++ tokens rest) :
    ReadAs (entryText description line) ts := by
  refine (readAs_comment isCommentLead_inner h).append (readAs_line fun rest => ?_)
  rw [String.toList_append, List.append_assoc, tokens_spaces fun _ => eq_space_of_mem_indent, hline]

theorem readAs_open {line before kind name : String}
    (hline : line = before ++ (kind ++ " " ++ name ++ " \x7b"))
    (hbefore : ∀ c ∈ before.toList, c = ' ') (hkind : isWord kind.toList = true)
    (hname : isWord name.toList = true) :
    ReadAs [line] [.word kind, .word name, .symbol '\x7b'] := by
  refine readAs_line fun rest => ?_
  have htext : line.toList ++ '\n' :: rest = before.toList ++ (kind.toList ++ ' ' ::
      (name.toList ++ ' ' :: '\x7b' :: '\n' :: rest)) := by
    simp [hline]
  rw [htext, tokens_spaces hbefore, tokens_word_space hkind, tokens_word_space hname,
    tokens_symbol (by decide), tokens_newline]
  simp

theorem readAs_close {before : String} (hbefore : ∀ c ∈ before.toList, c = ' ') :
    ReadAs [before ++ "\x7d"] [.symbol '\x7d'] := by
  refine readAs_line fun rest => ?_
  rw [String.toList_append, List.append_assoc, tokens_spaces hbefore]
  exact (tokens_symbol (by decide) _).trans (congrArg _ (tokens_newline _))

theorem readAs_block {description head kind name : String} {body : List String} {ts : List Token}
    (h : WithoutNul description) (hhead : head = kind ++ " " ++ name)
    (hkind : isWord kind.toList = true) (hname : isWord name.toList = true)
    (hbody : ReadAs body ts) :
    ReadAs (blockText description head body) (blockTokens kind name ts) := by
  have hclose : ReadAs ["" ++ "\x7d"] [.symbol '\x7d'] := readAs_close (by simp)
  have hend : ReadAs ["\x7d", ""] [.symbol '\x7d'] := hclose.append readAs_blank
  have hopen : ReadAs [head ++ " \x7b"] [.word kind, .word name, .symbol '\x7b'] :=
    readAs_open (by rw [hhead, String.empty_append]) (by simp) hkind hname
  have hblock := (((readAs_comment isCommentLead_top h).append hopen).append hbody).append hend
  simpa [blockText, blockTokens] using hblock

/-! ## Types -/

end Proto

/-- A name that can be given for a type becomes one that is read as the name of a type. -/
theorem isPath_protoName {n : String} (h : isTypeName n = true) :
    isPath (protoName n) = true ∧ isTypePath (parts (protoName n)) = true := by
  have hscalars : ∀ x ∈ scalarNames, isPath x.2 = true ∧ isTypePath (parts x.2) = true := by
    decide
  rw [isTypeName, Bool.or_eq_true, Bool.and_eq_true] at h
  unfold protoName
  cases hlookup : scalarNames.lookup n with
  | some v =>
    obtain ⟨before, after, hsplit, -⟩ := List.lookup_eq_some_iff.mp hlookup
    exact hscalars (n, v) (by rw [hsplit]; simp)
  | none =>
    rw [hlookup] at h
    exact h.resolve_left (by simp)

namespace TypeExpr

variable {t : TypeExpr} {signature : String} {rest : List Char}

theorem exists_of_isNamed (h : t.isNamed = true) : ∃ n, t = named n ∧ isTypeName n = true := by
  cases t with
  | named n => exact ⟨n, rfl, h⟩
  | _ => cases h

theorem isTypePath_parts (h : t.isNamed = true) : isTypePath t.parts = true := by
  obtain ⟨n, rfl, hn⟩ := exists_of_isNamed h
  exact (isPath_protoName hn).2

theorem tokens_of_isNamed (h : t.isNamed = true) : t.tokens = pathTokens t.parts := by
  obtain ⟨n, rfl, -⟩ := exists_of_isNamed h
  rfl

theorem fitsField_of_isNamed (h : t.isNamed = true) : t.fitsField = true := by
  obtain ⟨n, rfl, hn⟩ := exists_of_isNamed h
  exact hn

theorem tokens_signature_of_isNamed (h : t.isNamed = true) (hs : t.signature = .ok signature)
    (hrest : Ends rest) :
    Proto.tokens (signature.toList ++ rest) = t.tokens ++ Proto.tokens rest := by
  obtain ⟨n, rfl, hn⟩ := exists_of_isNamed h
  cases hs
  exact tokens_path (isPath_protoName hn).1 hrest

theorem isTypeName_of_mem_keyNames {key : String} (h : key ∈ keyNames) : isTypeName key = true := by
  revert key
  decide

theorem tokens_labelled {line label n : String} (hline : line = label ++ " " ++ protoName n)
    (hlabel : isWord label.toList = true) (hn : isTypeName n = true) (hrest : Ends rest) :
    Proto.tokens (line.toList ++ rest) =
      .word label :: (pathTokens (Proto.parts (protoName n)) ++ Proto.tokens rest) := by
  have htext : line.toList ++ rest = label.toList ++ ' ' :: ((protoName n).toList ++ rest) := by
    simp [hline]
  rw [htext, tokens_word_space hlabel, tokens_path (isPath_protoName hn).1 hrest]

theorem tokens_signature (h : t.fitsField = true) (hs : t.signature = .ok signature)
    (hrest : Ends rest) :
    Proto.tokens (signature.toList ++ rest) = t.tokens ++ Proto.tokens rest := by
  cases t with
  | named n => exact tokens_signature_of_isNamed h hs hrest
  | list element =>
    obtain ⟨n, rfl, hn⟩ := exists_of_isNamed h
    cases hs
    exact tokens_labelled rfl (by decide) hn hrest
  | optional inner =>
    obtain ⟨n, rfl, hn⟩ := exists_of_isNamed h
    cases hs
    exact tokens_labelled rfl (by decide) hn hrest
  | map key value =>
    cases key with
    | named k =>
      obtain ⟨hk, hvalue⟩ := Bool.and_eq_true_iff.mp h
      obtain ⟨n, rfl, hn⟩ := exists_of_isNamed hvalue
      cases hs
      have hkey := isPath_protoName (isTypeName_of_mem_keyNames (List.contains_iff_mem.mp hk))
      have htext : ("map<" ++ protoName k ++ ", " ++ protoName n ++ ">").toList ++ rest =
          "map".toList ++ '<' :: ((protoName k).toList ++ ',' :: ' ' ::
            ((protoName n).toList ++ '>' :: rest)) := by simp
      rw [htext, tokens_word_symbol (by decide) (by decide),
        tokens_path hkey.1 (ends_symbol (by decide) _), tokens_symbol (by decide), tokens_space,
        tokens_path (isPath_protoName hn).1 (ends_symbol (by decide) _), tokens_symbol (by decide)]
      simp [TypeExpr.tokens, TypeExpr.parts]
    | _ => cases h
  | absent => cases h
  | foreign type => cases h

end TypeExpr

/-! ## Fields -/

theorem Field.HasNumber.number_eq {f : Field} {n : Int} (h : f.HasNumber n) :
    f.number = n.natAbs := by
  rw [Field.number, fieldNumber_eq_ok.mpr h]
  rfl

theorem Field.HasNumber.natAbs_lt {f : Field} {n : Int} (h : f.HasNumber n) :
    n.natAbs < Token.integerLimit := by
  obtain ⟨-, a, -, -, -, -, hn⟩ := h
  obtain ⟨-, -, -, hfits⟩ := Annotation.toInt_eq_ok_iff.mp hn
  have hbounds := Annotation.fitsInt32_iff.mp hfits
  unfold Token.integerLimit
  omega

namespace Proto

theorem tokens_fieldLine {t : TypeExpr} {signature name : String} (ht : t.fitsField = true)
    (hs : t.signature = .ok signature) (hname : isWord name.toList = true) {k : Nat}
    (hk : k < Token.integerLimit) (rest : List Char) :
    tokens ((signature ++ " " ++ name ++ " = " ++ toString k ++ ";").toList ++ '\n' :: rest) =
      t.tokens ++ fieldEnd name k ++ tokens rest := by
  have htext : (signature ++ " " ++ name ++ " = " ++ toString k ++ ";").toList ++ '\n' :: rest =
      signature.toList ++ ' ' :: (name.toList ++ ' ' :: '=' :: ' ' ::
        ((toString k).toList ++ ';' :: '\n' :: rest)) := by simp
  rw [htext, TypeExpr.tokens_signature ht hs (ends_space _), tokens_space,
    tokens_word_space hname, tokens_symbol (by decide), tokens_space,
    tokens_natural hk (ends_symbol (by decide) _) (by simp), tokens_symbol (by decide),
    tokens_newline]
  simp [fieldEnd]

theorem readAs_field {f : Field} {ls : List String} (h : f.WellFormed) (hls : f.WrittenAs ls) :
    ReadAs ls f.tokens := by
  obtain ⟨n, signature, hn, hsignature, rfl⟩ := hls
  obtain ⟨m, hm, hpos⟩ := h.number
  have heq : m = n := by
    have hboth := (fieldNumber_eq_ok.mpr hm).symm.trans (fieldNumber_eq_ok.mpr hn)
    exact Except.ok.inj hboth
  subst heq
  obtain ⟨k, rfl⟩ := Int.eq_ofNat_of_zero_le (Int.le_of_lt hpos)
  rw [Field.tokens, hn.number_eq]
  exact readAs_entry h.description fun rest =>
    tokens_fieldLine h.type hsignature h.name hn.natAbs_lt rest

theorem readAs_type {t : TypeDef} {ls : List String} (h : t.WellFormed) (hls : t.WrittenAs ls) :
    ReadAs ls t.tokens := by
  obtain ⟨fields, hfields, rfl⟩ := hls
  exact readAs_block h.description (by simp) (by decide) h.name
    (readAs_flatten hfields fun f hf ls => readAs_field (h.fields f hf))

/-! ## Operations -/

theorem isWord_requestName {op : Operation} (h : op.WellFormed) :
    isWord op.requestName.toList = true := by
  rw [Operation.requestName, String.toList_append]
  exact isWord_append h.name (by decide)

theorem tokens_request {op : Operation} {type : String} (h : op.WellFormed) (ht : op.Takes type)
    {rest : List Char} (hrest : Ends rest) :
    tokens (type.toList ++ rest) = pathTokens op.requestParts ++ tokens rest := by
  unfold Operation.requestParts
  rcases ht with ⟨hbundles, rfl⟩ | ⟨p, hunary, hparameters, hsignature⟩
  · rw [Operation.soleParameter_eq_none.mpr hbundles, tokens_word (isWord_requestName h) hrest,
      String.ofList_toList]
    rfl
  · have hsole := Operation.soleParameter_eq_some.mpr ⟨hunary, hparameters⟩
    rw [hsole, TypeExpr.tokens_signature_of_isNamed (h.sole p hsole) hsignature hrest,
      TypeExpr.tokens_of_isNamed (h.sole p hsole)]

theorem tokens_response {op : Operation} {type : String} (h : op.WellFormed) (ht : op.Gives type)
    {rest : List Char} (hrest : Ends rest) :
    tokens (type.toList ++ rest) = pathTokens op.responseParts ++ tokens rest := by
  unfold Operation.responseParts
  unfold Operation.Gives at ht
  split
  · rename_i hreturns
    rw [if_pos hreturns] at ht
    rw [TypeExpr.tokens_signature_of_isNamed (h.returns hreturns) ht hrest,
      TypeExpr.tokens_of_isNamed (h.returns hreturns)]
  · rename_i hreturns
    rw [if_neg hreturns] at ht
    subst ht
    exact tokens_word (by decide) hrest

theorem readAs_operation {op : Operation} {ls : List String} (h : op.WellFormed)
    (hls : op.WrittenAs ls) : ReadAs ls op.tokens := by
  obtain ⟨request, response, hrequest, hresponse, rfl⟩ := hls
  refine readAs_entry h.description fun rest => ?_
  have htext : ("rpc " ++ toPascal op.name ++ "(" ++ request ++ ") returns (" ++ response ++
      ");").toList ++ '\n' :: rest =
        "rpc".toList ++ ' ' :: ((toPascal op.name).toList ++ '(' ::
          (request.toList ++ ')' :: ' ' :: ("returns".toList ++ ' ' :: '(' ::
            (response.toList ++ ')' :: ';' :: '\n' :: rest)))) := by
    simp
  rw [htext, tokens_word_space (by decide),
    tokens_word_symbol h.name (by decide),
    tokens_request h hrequest (ends_symbol (by decide) _), tokens_symbol (by decide), tokens_space,
    tokens_word_space (by decide), tokens_symbol (by decide),
    tokens_response h hresponse (ends_symbol (by decide) _), tokens_symbol (by decide),
    tokens_symbol (by decide), tokens_newline]
  simp [Operation.tokens, rpcTokens]

theorem readAs_role {filter : Filter} {r : Role} {ls : List String} (h : r.WellFormed filter)
    (hls : r.WrittenAs filter ls) : ReadAs ls (r.tokens filter) := by
  obtain ⟨operations, hoperations, rfl⟩ := hls
  refine readAs_block h.description (by simp) (by decide) h.name
    (readAs_flatten hoperations fun op hop ls => readAs_operation ?_)
  obtain ⟨hmem, haccepts⟩ := List.mem_filter.mp hop
  exact h.operations op hmem haccepts

/-- The message of a request is a well-formed type. -/
theorem wellFormed_request {op : Operation} (h : op.WellFormed) (hbundles : op.bundles = true) :
    op.request.WellFormed where
  description := by
    change '\x00' ∉ ("Request for the " ++ toPascal op.name ++ " operation.").toList
    rw [String.toList_append, String.toList_append, List.mem_append, List.mem_append]
    rintro ((hnul | hnul) | hnul)
    · exact absurd hnul (by decide)
    · exact absurd (isWordChar_of_mem h.name hnul) (by decide)
    · exact absurd hnul (by decide)
  name := by
    rw [show toPascal op.request.name = op.requestName from toPascal_requestName op]
    exact isWord_requestName h
  fields := h.parameters hbundles

/-! ## Enums and unions -/

theorem readAs_enum {e : EnumDef} (h : e.WellFormed) : ReadAs e.text e.tokens := by
  refine readAs_block h.description (by simp) (by decide) h.name (readAs_flatMap fun v hv => ?_)
  have hv := h.values v hv
  refine readAs_entry hv.description fun rest => ?_
  have htext : (toUpperSnake v.name ++ " = " ++ toString v.index ++ ";").toList ++ '\n' :: rest =
      (toUpperSnake v.name).toList ++ ' ' :: '=' :: ' ' ::
        ((toString v.index).toList ++ ';' :: '\n' :: rest) := by simp
  rw [htext, tokens_word_space hv.name.1,
    tokens_symbol (by decide), tokens_space,
    tokens_integer hv.index (ends_symbol (by decide) _) (by simp), tokens_symbol (by decide),
    tokens_newline]
  simp [EnumValue.tokens, valueTokens]

/-- The names of the members' fields are asked for on their own: that a name can be given for a
type does not make one of them. -/
theorem readAs_union {u : UnionDef} {ls : List String} (h : u.WellFormed)
    (hnames : ∀ t ∈ u.types, isWord (toSnake t.memberName ++ "_value").toList = true)
    (hls : u.WrittenAs ls) : ReadAs ls u.tokens := by
  obtain ⟨members, hmembers, rfl⟩ := hls
  have hopen : ReadAs [indent ++ "oneof oneof \x7b"]
      [.word "oneof", .word "oneof", .symbol '\x7b'] :=
    readAs_open rfl (fun _ => eq_space_of_mem_indent) (by decide) (by decide)
  have hmember : ∀ m ∈ u.types.zipIdx, ∀ ls, TypeExpr.MemberWrittenAs m ls →
      ReadAs ls (TypeExpr.memberTokens m) := by
    rintro ⟨t, i⟩ hm ls ⟨signature, hsignature, rfl⟩
    have ht := List.fst_mem_of_mem_zipIdx hm
    have hi := List.snd_lt_of_mem_zipIdx hm
    have hline : indent ++ indent ++ signature ++ " " ++ toSnake t.memberName ++ "_value = " ++
        toString (i + 1) ++ ";" = (indent ++ indent) ++ (signature ++ " " ++
          (toSnake t.memberName ++ "_value") ++ " = " ++ toString (i + 1) ++ ";") := by
      rw [show "_value = " = "_value" ++ " = " from rfl]
      simp only [String.append_assoc]
    have hspaces : ∀ c ∈ (indent ++ indent).toList, c = ' ' := by
      intro c hc
      rw [String.toList_append, List.mem_append] at hc
      exact hc.elim eq_space_of_mem_indent eq_space_of_mem_indent
    refine readAs_line fun rest => ?_
    rw [hline, String.toList_append, List.append_assoc, tokens_spaces hspaces]
    have hnamed := h.members t ht
    exact tokens_fieldLine (TypeExpr.fitsField_of_isNamed hnamed) hsignature (hnames t ht)
      (Nat.lt_of_le_of_lt (Nat.succ_le_of_lt hi) h.size) rest
  refine readAs_block h.description (by simp) (by decide) h.name ?_
  have hbody := (hopen.append (readAs_flatten hmembers hmember)).append
    (readAs_close fun _ => eq_space_of_mem_indent)
  simpa [blockTokens] using hbody

/-! ## Schemas -/

theorem readAs_version : ReadAs ["syntax = \"proto3\";", ""] versionTokens := by
  have hline : ReadAs ["syntax = \"proto3\";"] versionTokens := by
    refine readAs_line fun rest => ?_
    have htext : "syntax = \"proto3\";".toList ++ '\n' :: rest = "syntax".toList ++ ' ' :: '=' ::
        ' ' :: '"' :: ("proto3".toList ++ '"' :: ';' :: '\n' :: rest) := rfl
    rw [htext, tokens_word_space (by decide),
      tokens_symbol (by decide), tokens_space, tokens_literal (by decide),
      tokens_symbol (by decide), tokens_newline]
    rfl
  simpa using hline.append readAs_blank

theorem readAs_package {package : String} (h : isPath package = true) :
    ReadAs ["package " ++ package ++ ";", ""] (packageTokens (parts package)) := by
  have hline : ReadAs ["package " ++ package ++ ";"] (packageTokens (parts package)) := by
    refine readAs_line fun rest => ?_
    have htext : ("package " ++ package ++ ";").toList ++ '\n' :: rest =
        "package".toList ++ ' ' :: (package.toList ++ ';' :: '\n' :: rest) := by simp
    rw [htext, tokens_word_space (by decide),
      tokens_path h (ends_symbol (by decide) _), tokens_symbol (by decide), tokens_newline]
    simp [packageTokens]
  simpa using hline.append readAs_blank

theorem readAs_goPackage {package : String} (h : package.toList.all isLiteralChar = true) :
    ReadAs ["option go_package = \"" ++ package ++ "\";", ""] (optionTokens "go_package") := by
  have hline : ReadAs ["option go_package = \"" ++ package ++ "\";"]
      (optionTokens "go_package") := by
    refine readAs_line fun rest => ?_
    have htext : ("option go_package = \"" ++ package ++ "\";").toList ++ '\n' :: rest =
        "option".toList ++ ' ' :: ("go_package".toList ++ ' ' :: '=' :: ' ' :: '"' ::
          (package.toList ++ '"' :: ';' :: '\n' :: rest)) := by simp
    rw [htext, tokens_word_space (by decide),
      tokens_word_space (by decide), tokens_symbol (by decide),
      tokens_space, tokens_literal h, tokens_symbol (by decide), tokens_newline]
    rfl
  simpa using hline.append readAs_blank

theorem readAs_header {o : Options} {s : Schema} (h : s.WellFormed o) :
    ReadAs (header o s : Output RenderError).lines
      (versionTokens ++ packageTokens (parts (o.packageFor s)) ++
        if o.goPackage.isEmpty then [] else optionTokens "go_package") := by
  have hgo : ReadAs (if o.goPackage.isEmpty then []
      else ["option go_package = \"" ++ o.goPackage ++ "\";", ""])
        (if o.goPackage.isEmpty then [] else optionTokens "go_package") := by
    split
    · exact readAs_nil
    · exact readAs_goPackage h.goPackage
  exact (readAs_version.append (readAs_package h.package)).append hgo

theorem tokens_schema (o : Options) (s : Schema) :
    s.tokens o = versionTokens ++ packageTokens (parts (o.packageFor s)) ++
      (if o.goPackage.isEmpty then [] else optionTokens "go_package") ++
      (s.roles.filter o.filterOrAll.acceptsRole).flatMap (Role.tokens o.filterOrAll) ++
      s.types.flatMap TypeDef.tokens ++ s.enums.flatMap EnumDef.tokens ++
      s.unions.flatMap UnionDef.tokens ++
      (o.filterOrAll.bundling s.roles).flatMap fun op => op.request.tokens := by
  simp only [Schema.tokens, Schema.declared, List.flatMap_append, List.flatMap_map,
    List.flatMap_singleton, List.append_assoc]
  split <;> simp

/-- The text of a well-formed schema is read as the schema's tokens. -/
theorem readAs_schema {o : Options} {s : Schema} (h : s.WellFormed o)
    (hnames : ∀ u ∈ s.unions, ∀ t ∈ u.types,
      isWord (toSnake t.memberName ++ "_value").toList = true)
    {ls : List String} (hls : s.WrittenAs o ls) : ReadAs ls (s.tokens o) := by
  obtain ⟨services, types, unions, requests, hservices, htypes, hunions, hrequests, rfl⟩ := hls
  have hroles : ReadAs services.flatten _ := readAs_flatten hservices fun r hr ls =>
    readAs_role (h.roles r (List.mem_filter.mp hr).1 (List.mem_filter.mp hr).2)
  have hall := (((((readAs_header h).append hroles).append
    (readAs_flatten htypes fun t ht ls => readAs_type (h.types t ht))).append
    (readAs_flatMap fun e he => readAs_enum (h.enums e he))).append
    (readAs_flatten hunions fun u hu ls => readAs_union (h.unions u hu) (hnames u hu))).append
    (readAs_flatten hrequests fun op hop ls hls => readAs_type
      (wellFormed_request (h.bundling hop).1 (h.bundling hop).2) (requestWrittenAs_iff.mp hls))
  rw [tokens_schema]
  exact hall

end Proto

end ProtoSchema
