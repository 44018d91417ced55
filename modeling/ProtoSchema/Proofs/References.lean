import ProtoSchema.Proto.Outline
import ProtoSchema.Proofs.Sections

/-!
# References and declarations

A name of a schema is written in two ways. In the head of its declaration it is raised. Where a type
refers to it, at whatever depth, it is written as it is, unless it is a scalar's name
(`protoText_fill`). So a reference is spelled as the declaration exactly if the name is raised
already, which means that it has no separators and that its first character is its own upper-case
form (`toPascal_eq_self`).

References are not looked up, and nothing fails if there is no declaration of the name that a
reference has in the text.
-/

namespace ProtoSchema

open Text Proto

/-! ## Names in types -/

/-- A type with one part left open. -/
inductive TypeContext where
  | here
  | list (element : TypeContext)
  | key (key : TypeContext) (value : TypeExpr)
  | value (key : TypeExpr) (value : TypeContext)
  | optional (inner : TypeContext)

namespace TypeContext

/-- The type with another one in the open part. -/
def fill : TypeContext → TypeExpr → TypeExpr
  | here, t => t
  | list c, t => .list (c.fill t)
  | key c v, t => .map (c.fill t) v
  | value k c, t => .map k (c.fill t)
  | optional c, t => .optional (c.fill t)

/-- What is written before the open part. -/
def before : TypeContext → String
  | here => ""
  | list c => "repeated " ++ c.before
  | key c _ => "map<" ++ c.before
  | value k c => "map<" ++ k.protoText ++ ", " ++ c.before
  | optional c => "optional " ++ c.before

/-- What is written after the open part. -/
def after : TypeContext → String
  | here => ""
  | list c => c.after
  | key c v => c.after ++ ", " ++ v.protoText ++ ">"
  | value _ c => c.after ++ ">"
  | optional c => c.after

/-- What is written for a part of a type does not depend on what is around it. -/
theorem protoText_fill (c : TypeContext) (t : TypeExpr) :
    (c.fill t).protoText = c.before ++ t.protoText ++ c.after := by
  induction c with
  | here => simp [fill, before, after]
  | list c ih => simp only [fill, TypeExpr.protoText, before, after, ih, String.append_assoc]
  | key c v ih => simp only [fill, TypeExpr.protoText, before, after, ih, String.append_assoc]
  | value k c ih => simp only [fill, TypeExpr.protoText, before, after, ih, String.append_assoc]
  | optional c ih => simp only [fill, TypeExpr.protoText, before, after, ih, String.append_assoc]

end TypeContext

theorem protoName_of_lookup_eq_none {n : String} (h : scalarNames.lookup n = none) :
    protoName n = n := by
  rw [protoName, h]
  rfl

/-! ## Raised names -/

theorem toPascal_eq_self {n : String} :
    toPascal n = n ↔ (∀ c ∈ n.toList, isSeparator c = false) ∧
      ∀ c ∈ n.toList.head?, toUpper c = c := by
  have hchars : toPascal n = n ↔ pascal n.toList = n.toList := by
    rw [toPascal]
    constructor
    · intro h
      rw [← String.toList_ofList (l := pascal n.toList), h]
    · intro h
      rw [h, String.ofList_toList]
  rw [hchars]
  constructor
  · intro h
    refine ⟨fun c hc => ?_, fun c hc => ?_⟩
    · rw [← h] at hc
      exact not_isSeparator_of_mem_pascalFrom hc
    · rw [← h] at hc
      exact toUpper_of_mem_head_pascal hc
  · rintro ⟨hseparators, hfirst⟩
    exact pascal_eq_self hseparators hfirst

/-! ## Where types and declarations are written -/

/-- A type is printed in a line, between these texts. -/
inductive Schema.Prints (o : Options) (s : Schema) : TypeExpr → String → String → Prop where
  | field {t : TypeDef} {f : Field} (ht : t ∈ s.types) (hf : f ∈ t.fields) :
    Prints o s f.type indent (" " ++ toSnake f.name ++ " = " ++ f.numberText ++ ";")
  | parameter {x : Role × Operation} {p : Field} (hx : x ∈ o.filterOrAll.accepted s.roles)
    (hbundles : x.2.bundles = true) (hp : p ∈ x.2.parameters) :
    Prints o s p.type indent (" " ++ toSnake p.name ++ " = " ++ p.numberText ++ ";")
  | request {x : Role × Operation} {p : Field} (hx : x ∈ o.filterOrAll.accepted s.roles)
    (hsole : x.2.soleParameter = some p) :
    Prints o s p.type (indent ++ "rpc " ++ toPascal x.2.name ++ "(")
      (") returns (" ++ x.2.responseText ++ ");")
  | response {x : Role × Operation} (hx : x ∈ o.filterOrAll.accepted s.roles)
    (hreturns : x.2.returnsValue = true) :
    Prints o s x.2.returns
      (indent ++ "rpc " ++ toPascal x.2.name ++ "(" ++ x.2.requestText ++ ") returns (") ");"
  | member {u : UnionDef} {t : TypeExpr} {i : Nat} (hu : u ∈ s.unions)
    (ht : u.types[i]? = some t) :
    Prints o s t (indent ++ indent)
      (" " ++ toSnake t.memberName ++ "_value = " ++ toString (i + 1) ++ ";")

/-- A definition of a name, with the word that stands before it in the text. -/
inductive Schema.Declares (s : Schema) : String → String → Prop where
  | type {t : TypeDef} (ht : t ∈ s.types) : Declares s "message" t.name
  | enum {e : EnumDef} (he : e ∈ s.enums) : Declares s "enum" e.name
  | union {u : UnionDef} (hu : u ∈ s.unions) : Declares s "message" u.name

namespace Proto

theorem head_mem_blockText (description head : String) (body : List String) :
    head ++ " \x7b" ∈ blockText description head body := by
  simp [blockText]

theorem mem_blockText_of_mem {description head l : String} {body : List String} (h : l ∈ body) :
    l ∈ blockText description head body := by
  simp [blockText, h]

theorem line_mem_entryText (description line : String) :
    indent ++ line ∈ entryText description line := by
  simp [entryText]

theorem mem_text_of_mem_field {t : TypeDef} {f : Field} (hf : f ∈ t.fields) :
    indent ++ f.line ∈ t.text :=
  mem_blockText_of_mem (List.mem_flatMap.mpr ⟨f, hf, line_mem_entryText _ _⟩)

section

variable {o : Options} {s : Schema}

theorem mem_lines_of_mem_type {t : TypeDef} {l : String} (ht : t ∈ s.types) (hl : l ∈ t.text) :
    l ∈ s.lines o := by
  have hmem : l ∈ s.types.flatMap TypeDef.text := List.mem_flatMap.mpr ⟨t, ht, hl⟩
  simp only [Schema.lines, List.mem_append, hmem, true_or, or_true]

theorem mem_lines_of_mem_enum {e : EnumDef} {l : String} (he : e ∈ s.enums) (hl : l ∈ e.text) :
    l ∈ s.lines o := by
  have hmem : l ∈ s.enums.flatMap EnumDef.text := List.mem_flatMap.mpr ⟨e, he, hl⟩
  simp only [Schema.lines, List.mem_append, hmem, true_or, or_true]

theorem mem_lines_of_mem_union {u : UnionDef} {l : String} (hu : u ∈ s.unions)
    (hl : l ∈ u.text) : l ∈ s.lines o := by
  have hmem : l ∈ s.unions.flatMap UnionDef.text := List.mem_flatMap.mpr ⟨u, hu, hl⟩
  simp only [Schema.lines, List.mem_append, hmem, true_or, or_true]

theorem mem_lines_of_mem_operation {x : Role × Operation} {l : String}
    (hx : x ∈ o.filterOrAll.accepted s.roles) (hl : l ∈ x.2.text) : l ∈ s.lines o := by
  obtain ⟨hr, hrole, hop, haccepted⟩ := Filter.mem_accepted.mp hx
  have hservice : l ∈ x.1.text o.filterOrAll := mem_blockText_of_mem
    (List.mem_flatMap.mpr ⟨x.2, List.mem_filter.mpr ⟨hop, haccepted⟩, hl⟩)
  have hmem : l ∈ (s.roles.filter o.filterOrAll.acceptsRole).flatMap (Role.text o.filterOrAll) :=
    List.mem_flatMap.mpr ⟨x.1, List.mem_filter.mpr ⟨hr, hrole⟩, hservice⟩
  simp only [Schema.lines, List.mem_append, hmem, true_or, or_true]

theorem mem_lines_of_mem_request {x : Role × Operation} {l : String}
    (hx : x ∈ o.filterOrAll.accepted s.roles) (hbundles : x.2.bundles = true)
    (hl : l ∈ x.2.request.text) : l ∈ s.lines o := by
  have hop : x.2 ∈ o.filterOrAll.bundling s.roles :=
    List.mem_map.mpr ⟨x, List.mem_filter.mpr ⟨hx, hbundles⟩, rfl⟩
  have hmem : l ∈ (o.filterOrAll.bundling s.roles).flatMap fun op => op.request.text :=
    List.mem_flatMap.mpr ⟨x.2, hop, hl⟩
  simp only [Schema.lines, List.mem_append, hmem, or_true]

/-- A type that is printed somewhere is in a line of the schema. -/
theorem mem_lines_of_prints {t : TypeExpr} {left right : String}
    (h : s.Prints o t left right) : left ++ t.protoText ++ right ∈ s.lines o := by
  cases h with
  | @field t f ht hf =>
    have hline := mem_lines_of_mem_type (o := o) ht (mem_text_of_mem_field hf)
    simpa only [Field.line, String.append_assoc] using hline
  | @parameter x p hx hbundles hp =>
    have hline := mem_lines_of_mem_request hx hbundles
      (mem_text_of_mem_field (t := x.2.request) hp)
    simpa only [Field.line, String.append_assoc] using hline
  | @request x p hx hsole =>
    have hline := mem_lines_of_mem_operation hx (line_mem_entryText _ _)
    have htext : x.2.requestText = p.type.protoText := by rw [Operation.requestText, hsole]
    simpa only [htext, String.append_assoc] using hline
  | @response x hx hreturns =>
    have hline := mem_lines_of_mem_operation hx (line_mem_entryText _ _)
    have htext : x.2.responseText = x.2.returns.protoText := if_pos hreturns
    simpa only [htext, String.append_assoc] using hline
  | @member u t i hu ht =>
    have hmember : t.memberText (i + 1) ∈ u.memberLines := by
      refine List.mem_of_getElem? (i := i) ?_
      rw [getElem?_memberLines, ht]
      rfl
    have hline := mem_lines_of_mem_union (o := o) hu
      (mem_blockText_of_mem (List.mem_append_left _ (List.mem_append_right _ hmember)))
    simpa only [TypeExpr.memberText, String.append_assoc] using hline

/-- The head of a declaration is a line of the schema, with the name raised. -/
theorem mem_lines_of_declares {keyword n : String} (h : s.Declares keyword n) :
    keyword ++ " " ++ toPascal n ++ " \x7b" ∈ s.lines o := by
  cases h with
  | type ht => exact mem_lines_of_mem_type ht (head_mem_blockText _ _ _)
  | enum he => exact mem_lines_of_mem_enum he (head_mem_blockText _ _ _)
  | union hu => exact mem_lines_of_mem_union hu (head_mem_blockText _ _ _)

/-- What is printed in a rendering that succeeds can be expressed. -/
theorem resolvable_of_prints (hs : Renderable o s) {t : TypeExpr} {left right : String}
    (h : s.Prints o t left right) : t.Resolvable := by
  cases h with
  | field ht hf => exact (hs.fields _ ht _ hf).2
  | parameter hx hbundles hp =>
    obtain ⟨hr, hrole, hop, haccepted⟩ := Filter.mem_accepted.mp hx
    exact (hs.parameters _ hr hrole _ hop haccepted (Operation.bundles_iff.mp hbundles) _ hp).2
  | request hx hsole =>
    obtain ⟨hr, hrole, hop, haccepted⟩ := Filter.mem_accepted.mp hx
    obtain ⟨hunary, hparameters⟩ := Operation.soleParameter_eq_some.mp hsole
    exact (hs.operations _ hr hrole _ hop haccepted).2 _ hunary hparameters
  | response hx hreturns =>
    obtain ⟨hr, hrole, hop, haccepted⟩ := Filter.mem_accepted.mp hx
    exact (hs.operations _ hr hrole _ hop haccepted).1 hreturns
  | member hu ht => exact hs.members _ hu _ (List.mem_of_getElem? ht)

end

/-- Wherever a type is printed that refers to a definition, the reference is the name as it is, and
the head of the definition has it raised. The two are spelled alike exactly if the name is raised
already. -/
theorem reference_eq_declaration_iff {o : Options} {s : Schema} {text : String}
    (h : render o s = .ok text) :
    text = unlines (generate o s).lines ∧
      ∀ keyword n, s.Declares keyword n → scalarNames.lookup n = none →
        ∀ t left right, s.Prints o t left right → ∀ c : TypeContext, t = c.fill (.named n) →
          t.signature = .ok (c.before ++ n ++ c.after) ∧
            left ++ (c.before ++ n ++ c.after) ++ right ∈ (generate o s).lines ∧
            keyword ++ " " ++ toPascal n ++ " \x7b" ∈ (generate o s).lines ∧
            (n = toPascal n ↔ (∀ d ∈ n.toList, isSeparator d = false) ∧
              ∀ d ∈ n.toList.head?, toUpper d = d) := by
  rw [lines_of_render h]
  refine ⟨render_eq_lines h, fun keyword n hdeclares hscalar t left right hprints c ht => ?_⟩
  have hreference : t.protoText = c.before ++ n ++ c.after := by
    rw [ht, TypeContext.protoText_fill, TypeExpr.protoText, protoName_of_lookup_eq_none hscalar]
  have hresolvable : t.Resolvable :=
    resolvable_of_prints (exists_render_iff_renderable.mp ⟨text, h⟩) hprints
  rw [← hreference]
  exact ⟨TypeExpr.signature_eq_ok.mpr ⟨hresolvable, rfl⟩, mem_lines_of_prints hprints,
    mem_lines_of_declares hdeclares, eq_comm.trans toPascal_eq_self⟩

/-- A reference inside a list inside a map, with a name that is raised already. -/
theorem reference_eq_declaration_iff_nested :
    let number : Annotation := { name := "fieldnum", value := .integer .int 1 }
    let byDay : TypeExpr := .map (.named "string") (.list (.optional (.named "UserID")))
    let f : Field := { name := "byDay", type := byDay, annotations := [number] }
    let user : TypeDef := { name := "UserID", fields := [f] }
    let s : Schema := { space := { name := "demo" }, types := [user] }
    byDay.signature = .ok "map<string, repeated optional UserID>" ∧
      "  map<string, repeated optional UserID> by_day = 1;" ∈ (generate {} s).lines ∧
      "message UserID \x7b" ∈ (generate {} s).lines ∧ "UserID" = toPascal "UserID" ∧
      ∀ d ∈ "UserID".toList, isSeparator d = false := by
  intro number byDay f user s
  have hok : (generate {} s).failure = none := Option.isNone_iff_eq_none.mp (by decide +kernel)
  obtain ⟨text, h⟩ := exists_render_eq_ok.mpr hok
  have hdeclares : s.Declares "message" user.name := .type (List.mem_singleton_self user)
  obtain ⟨hsignature, hline, hhead, hraised⟩ := (reference_eq_declaration_iff h).2
    _ _ hdeclares (by decide +kernel) _ _ _ (.field (List.mem_singleton_self user)
      (List.mem_singleton_self f)) (.value (.named "string") (.list (.optional .here))) rfl
  have hprinted : indent ++ "map<string, repeated optional UserID>" ++
      (" " ++ toSnake f.name ++ " = " ++ f.numberText ++ ";") =
        "  map<string, repeated optional UserID> by_day = 1;" := by decide +kernel
  have hname : "UserID" = toPascal "UserID" := by decide +kernel
  rw [← hname] at hhead
  exact ⟨hsignature, hprinted ▸ hline, hhead, hname, (hraised.mp hname).1⟩

/-- A definition with an underscore in its name: the text has no declaration of the name that the
reference has. -/
theorem reference_ne_declaration_underscore :
    let number : Annotation := { name := "fieldnum", value := .integer .int 1 }
    let owner : TypeExpr := .optional (.named "user_profile")
    let account : TypeDef := {
      name := "Account", fields := [{ name := "owner", type := owner, annotations := [number] }] }
    let s : Schema := {
      space := { name := "demo" }, types := [{ name := "user_profile" }, account] }
    let text := "syntax = \"proto3\";\n\npackage demo;\n\nmessage UserProfile \x7b\n\x7d\n\n" ++
      "message Account \x7b\n  optional user_profile owner = 1;\n\x7d\n\n"
    s.Declares "message" "user_profile" ∧ scalarNames.lookup "user_profile" = none ∧
      render {} s = .ok text ∧ owner.signature = .ok "optional user_profile" ∧
      toPascal "user_profile" = "UserProfile" ∧
      outline text = .ok { package := "demo", messages := ["UserProfile", "Account"] } := by
  intro number owner account s text
  exact ⟨.type (t := { name := "user_profile" }) (by simp [s]), by decide +kernel,
    toOption_eq_some.mp (by decide +kernel), toOption_eq_some.mp (by decide +kernel),
    by decide +kernel, toOption_eq_some.mp (by decide +kernel)⟩

end Proto

end ProtoSchema
