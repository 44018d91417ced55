import Mathlib.Data.List.Nodup
import ProtoSchema.Proofs.Sections
import ProtoSchema.Proofs.Validity

/-!
# The names of messages

The messages of a text are made of types, of unions and of the operations that bundle their
parameters, in this order (`filterMap_messageName?`). The name of a request is made of the name of
its operation alone, and the role is not in it. So requests are told apart inside a role, and from
what the schema defines, as far as the names of the schema are; but two operations of one name in
different roles make two messages of one name (`messageNames_nodup_iff`).
-/

namespace ProtoSchema

open Text Proto

/-- The names that a schema defines, raised. -/
def Schema.definedNames (s : Schema) : List String :=
  (s.types.map fun t => toPascal t.name) ++ (s.enums.map fun e => toPascal e.name) ++
    s.unions.map fun u => toPascal u.name

namespace Proto

/-! ## Reading the names off the lines -/

/-- The name of the message that a line opens: the word after the keyword, at the start of a
line. -/
def messageName? (line : String) : Option String :=
  if "message ".toList <+: line.toList then
    some (String.ofList ((line.toList.drop 8).takeWhile (· != ' ')))
  else none

/-- Nothing is opened by a line that starts with another character than the keyword. -/
theorem messageName?_eq_none {line : String} (h : line.toList.head? ≠ some 'm') :
    messageName? line = none := by
  refine if_neg fun hkeyword => h ?_
  obtain ⟨rest, hrest⟩ := hkeyword
  rw [← hrest]
  rfl

theorem messageName?_head (n : String) :
    messageName? ("message " ++ toPascal n ++ " \x7b") = some (toPascal n) := by
  have hchars : ("message " ++ toPascal n ++ " \x7b").toList =
      "message ".toList ++ ((toPascal n).toList ++ [' ', '\x7b']) := by
    simp only [String.toList_append, List.append_assoc]
    rfl
  have hspace : ∀ c ∈ (toPascal n).toList, (c != ' ') = true := by
    intro c hc
    rw [toPascal, String.toList_ofList] at hc
    rw [bne_iff_ne]
    rintro rfl
    exact absurd (not_isSeparator_of_mem_pascalFrom hc) (by decide)
  have hdrop : ("message ".toList ++ ((toPascal n).toList ++ [' ', '\x7b'])).drop 8 =
      (toPascal n).toList ++ [' ', '\x7b'] := rfl
  rw [messageName?, hchars, if_pos (List.prefix_append _ _), hdrop,
    List.takeWhile_append_of_pos hspace]
  simp

theorem messageName?_append {w : String} (h : w.toList.head?.any (· != 'm') = true)
    (rest : String) : messageName? (w ++ rest) = none := by
  refine messageName?_eq_none ?_
  rw [String.toList_append]
  cases hw : w.toList with
  | nil => simp [hw] at h
  | cons c cs => simpa [hw] using h

theorem messageName?_indent (line : String) : messageName? (indent ++ line) = none :=
  messageName?_append (by decide) line

theorem messageName?_of_mem_commentText {lead text l : String} (hlead : IsCommentLead lead.toList)
    (h : l ∈ commentText lead text) : messageName? l = none := by
  obtain ⟨v, hv, hbare⟩ := hlead
  obtain ⟨chars, hchars, rfl⟩ := List.mem_map.mp h
  obtain ⟨t, rfl, -⟩ := mem_commentLines hchars
  refine messageName?_eq_none ?_
  rw [String.toList_ofList, hbare]
  cases v with
  | nil => simp
  | cons c v => simp [hv c List.mem_cons_self]

theorem messageName?_of_mem_entryText {description line l : String}
    (h : l ∈ entryText description line) : messageName? l = none := by
  rcases List.mem_append.mp h with hcomment | hline
  · exact messageName?_of_mem_commentText isCommentLead_inner hcomment
  · rw [List.mem_singleton.mp hline]
    exact messageName?_indent line

/-- Entries open no message. -/
theorem messageName?_of_mem_entries {α : Type} {l : List α} {description line : α → String}
    {x : String} (h : x ∈ l.flatMap fun a => entryText (description a) (line a)) :
    messageName? x = none := by
  obtain ⟨a, -, hx⟩ := List.mem_flatMap.mp h
  exact messageName?_of_mem_entryText hx

/-- Of the lines of a block only its head can open a message. -/
theorem filterMap_blockText {description head : String} {body : List String}
    (hbody : ∀ l ∈ body, messageName? l = none) :
    (blockText description head body).filterMap messageName? =
      (messageName? (head ++ " \x7b")).toList := by
  have hcomment : (commentText commentLead description).filterMap messageName? = [] :=
    List.filterMap_eq_nil_iff.mpr fun l hl => messageName?_of_mem_commentText isCommentLead_top hl
  have hend : ["\x7d", ""].filterMap messageName? = [] := by decide
  simp only [blockText, List.filterMap_append, hcomment, List.filterMap_eq_nil_iff.mpr hbody, hend,
    List.nil_append, List.append_nil]
  cases h : messageName? (head ++ " \x7b") <;> simp [h]

/-! ## Section by section -/

theorem filterMap_headerLines (package goPackage : String) :
    (headerLines package goPackage).filterMap messageName? = [] := by
  have hpackage : messageName? ("package " ++ package ++ ";") = none := by
    rw [String.append_assoc]
    exact messageName?_append (by decide) _
  have hoption : messageName? ("option go_package = \"" ++ goPackage ++ "\";") = none := by
    rw [String.append_assoc]
    exact messageName?_append (by decide) _
  have hsyntax : messageName? "syntax = \"proto3\";" = none := messageName?_eq_none (by decide)
  have hempty : messageName? "" = none := messageName?_eq_none (by decide)
  unfold headerLines
  split <;> simp [hpackage, hoption, hsyntax, hempty]

theorem filterMap_role (filter : Filter) (r : Role) :
    (r.text filter).filterMap messageName? = [] := by
  have hhead : messageName? ("service " ++ r.name ++ " \x7b") = none := by
    rw [String.append_assoc]
    exact messageName?_append (by decide) _
  have hbody : ∀ l ∈ (r.operations.filter (filter.acceptsOperation r)).flatMap Operation.text,
      messageName? l = none := fun l hl => messageName?_of_mem_entries hl
  rw [Role.text, filterMap_blockText hbody, hhead]
  rfl

theorem filterMap_type (t : TypeDef) :
    t.text.filterMap messageName? = [toPascal t.name] := by
  have hbody : ∀ l ∈ t.fields.flatMap Field.text, messageName? l = none :=
    fun l hl => messageName?_of_mem_entries hl
  rw [TypeDef.text, filterMap_blockText hbody, messageName?_head]
  rfl

theorem filterMap_enum (e : EnumDef) : e.text.filterMap messageName? = [] := by
  have hhead : messageName? ("enum " ++ toPascal e.name ++ " \x7b") = none := by
    rw [String.append_assoc]
    exact messageName?_append (by decide) _
  rw [EnumDef.text, filterMap_blockText fun l hl => messageName?_of_mem_entries hl, hhead]
  rfl

theorem filterMap_union (u : UnionDef) :
    u.text.filterMap messageName? = [toPascal u.name] := by
  have hbody : ∀ l ∈ [indent ++ "oneof oneof \x7b"] ++ u.memberLines ++ [indent ++ "\x7d"],
      messageName? l = none := by
    simp only [List.mem_append, List.mem_singleton, UnionDef.memberLines, List.mem_map]
    rintro l ((rfl | ⟨m, -, rfl⟩) | rfl)
    · exact messageName?_indent _
    · simp only [TypeExpr.memberText, String.append_assoc]
      exact messageName?_indent _
    · exact messageName?_indent _
  rw [UnionDef.text, filterMap_blockText hbody, messageName?_head]
  rfl

theorem filterMap_flatMap_single {α : Type} {l : List α} {lines : α → List String}
    {name : α → String} (h : ∀ a, (lines a).filterMap messageName? = [name a]) :
    (l.flatMap lines).filterMap messageName? = l.map name := by
  rw [List.filterMap_flatMap, List.map_eq_flatMap]
  exact List.flatMap_congr fun a _ => h a

theorem filterMap_flatMap_nil {α : Type} {l : List α} {lines : α → List String}
    (h : ∀ a, (lines a).filterMap messageName? = []) :
    (l.flatMap lines).filterMap messageName? = [] := by
  rw [List.filterMap_flatMap, List.flatMap_eq_nil_iff]
  exact fun a _ => h a

/-- The messages that the lines of a schema open. -/
theorem filterMap_messageName? (o : Options) (s : Schema) :
    (s.lines o).filterMap messageName? = (s.outline o).messages := by
  have hrequest : ∀ op : Operation, op.request.text.filterMap messageName? = [op.requestName] := by
    intro op
    rw [filterMap_type, show toPascal op.request.name = op.requestName from toPascal_requestName op]
  simp only [Schema.lines, List.filterMap_append, filterMap_headerLines,
    filterMap_flatMap_nil (filterMap_role o.filterOrAll), filterMap_flatMap_nil filterMap_enum,
    filterMap_flatMap_single filterMap_type, filterMap_flatMap_single filterMap_union,
    filterMap_flatMap_single hrequest, List.nil_append, List.append_nil]
  rfl

/-- What the text of a well-formed schema declares, if no member of a union is called after a
digit. -/
theorem outline_of_wellFormed {o : Options} {s : Schema} {text : String} (h : s.WellFormed o)
    (hmembers : ∀ u ∈ s.unions, ∀ t ∈ u.types, t.startsWithDigit = false)
    (htext : render o s = .ok text) : outline text = .ok (s.outline o) := by
  obtain ⟨ls, hls, rfl⟩ := render_eq_ok.mp htext
  have htokens : tokens (unlines ls).toList = s.tokens o := by
    simpa using readAs_schema h
      (fun u hu t ht => TypeExpr.isWord_field ((h.unions u hu).members t ht) (hmembers u hu t ht))
      hls []
  exact outline_of_tokens (dropMark_of_written hls) htokens (file_tokens h)

/-! ## Names that meet -/

theorem requestName_inj {op op' : Operation} :
    op.requestName = op'.requestName ↔ toPascal op.name = toPascal op'.name := by
  rw [Operation.requestName, Operation.requestName, String.append_left_inj]

/-- The requests of the accepted operations have different names if the operations of a role have,
and those of different roles. -/
theorem nodup_requestNames {filter : Filter} {roles : List Role}
    (hroles : (roles.map Role.name).Nodup)
    (hoperations : ∀ r ∈ roles, (r.operations.map fun op => toPascal op.name).Nodup) :
    ((filter.bundling roles).map Operation.requestName).Nodup ↔
      ∀ x ∈ filter.accepted roles, ∀ y ∈ filter.accepted roles, x.2.bundles = true →
        y.2.bundles = true → x.1.name ≠ y.1.name → toPascal x.2.name ≠ toPascal y.2.name := by
  have hlist : (filter.bundling roles).map Operation.requestName =
      ((filter.accepted roles).filter fun x => x.2.bundles).map fun x => x.2.requestName :=
    List.map_map
  rw [hlist]
  constructor
  · intro h x hx y hy hbundles hbundles' hne heq
    have hsame : x = y := List.inj_on_of_nodup_map h (List.mem_filter.mpr ⟨hx, hbundles⟩)
      (List.mem_filter.mpr ⟨hy, hbundles'⟩) (requestName_inj.mpr heq)
    exact hne (hsame ▸ rfl)
  · intro h
    -- First the requests of one role, then those of one role against those of another.
    refine List.pairwise_map.mpr (List.pairwise_filter.mpr (List.pairwise_flatMap.mpr ⟨?_, ?_⟩))
    · intro r hr
      have hrole := List.pairwise_map.mp (hoperations r (List.mem_filter.mp hr).1)
      exact List.pairwise_map.mpr ((hrole.filter _).imp fun hne _ _ heq =>
        hne (requestName_inj.mp heq))
    · have hnames : (roles.filter filter.acceptsRole).Pairwise fun r r' => r.name ≠ r'.name :=
        (List.pairwise_map.mp hroles).filter _
      refine hnames.imp_of_mem fun {r r'} hr hr' hne x hx y hy hbundles hbundles' heq => ?_
      obtain ⟨op, -, rfl⟩ := List.mem_map.mp hx
      obtain ⟨op', -, rfl⟩ := List.mem_map.mp hy
      exact h _ (List.mem_flatMap.mpr ⟨r, hr, hx⟩) _ (List.mem_flatMap.mpr ⟨r', hr', hy⟩) hbundles
        hbundles' hne (requestName_inj.mp heq)

/-- The messages have different names if the requests have, as long as no definition is called like
another one or like a request. -/
theorem nodup_messages {o : Options} {s : Schema} (hnames : s.definedNames.Nodup)
    (hrequests : ∀ r ∈ s.roles, ∀ op ∈ r.operations, op.requestName ∉ s.definedNames) :
    (s.outline o).messages.Nodup ↔
      ((o.filterOrAll.bundling s.roles).map Operation.requestName).Nodup := by
  have hdefined : ((s.types.map fun t => toPascal t.name) ++
      s.unions.map fun u => toPascal u.name).Sublist s.definedNames :=
    (List.sublist_append_left _ _).append (List.Sublist.refl _)
  have hdisjoint : ∀ n ∈ (s.types.map fun t => toPascal t.name) ++
      s.unions.map fun u => toPascal u.name,
      n ∉ (o.filterOrAll.bundling s.roles).map Operation.requestName := by
    intro n hn hrequest
    obtain ⟨op, hop, rfl⟩ := List.mem_map.mp hrequest
    obtain ⟨x, hx, rfl⟩ := List.mem_map.mp hop
    obtain ⟨hr, -, hop, -⟩ := Filter.mem_accepted.mp (List.mem_filter.mp hx).1
    exact hrequests x.1 hr x.2 hop (hdefined.subset hn)
  constructor
  · exact fun h => (List.nodup_append.mp h).2.1
  · intro h
    exact List.nodup_append'.mpr ⟨hnames.sublist hdefined, h, hdisjoint⟩

/-- If the roles have different names, the operations of each role have, and no definition is called
like another one or like a request, then the messages of a rendering have different names exactly if
no two operations of different roles that bundle their parameters are called alike. The names are
read off the lines, and they are what a well-formed text declares. -/
theorem messageNames_nodup_iff {o : Options} {s : Schema} {text : String}
    (hroles : (s.roles.map Role.name).Nodup)
    (hoperations : ∀ r ∈ s.roles, (r.operations.map fun op => toPascal op.name).Nodup)
    (hnames : s.definedNames.Nodup)
    (hrequests : ∀ r ∈ s.roles, ∀ op ∈ r.operations, toPascal op.name ++ "Request" ∉ s.definedNames)
    (h : render o s = .ok text) :
    let names := (generate o s).lines.filterMap messageName?
    text = unlines (generate o s).lines ∧
      (names.Nodup ↔
        ∀ x ∈ o.filterOrAll.accepted s.roles, ∀ y ∈ o.filterOrAll.accepted s.roles,
          x.2.bundles = true → y.2.bundles = true → x.1.name ≠ y.1.name →
            toPascal x.2.name ≠ toPascal y.2.name) ∧
      (s.WellFormed o → (∀ u ∈ s.unions, ∀ t ∈ u.types, t.startsWithDigit = false) →
        ∃ declared, outline text = .ok declared ∧ declared.messages = names) := by
  rw [lines_of_render h, filterMap_messageName?]
  refine ⟨render_eq_lines h, ?_, fun hwell hmembers =>
    ⟨s.outline o, outline_of_wellFormed hwell hmembers h, rfl⟩⟩
  exact (nodup_messages hnames hrequests).trans (nodup_requestNames hroles hoperations)

/-- Two operations of one name in different roles, of which one takes its parameter as it is. -/
theorem messageNames_nodup_iff_sole :
    let key : Field := { name := "key", type := .named "Key" }
    let get : Operation := { name := "get", parameters := [key], unary := true }
    let s : Schema := {
      space := { name := "demo" }
      roles := [
        { name := "A", operations := [{ name := "get" }, { name := "find all" }] },
        { name := "B", operations := [get, { name := "find" }] }]
      types := [{ name := "key" }]
      enums := [{ name := "color" }]
      unions := [{ name := "shape", types := [.named "Key"] }] }
    (s.roles.map Role.name).Nodup ∧ s.definedNames.Nodup ∧
      ∃ text declared, render {} s = .ok text ∧ outline text = .ok declared ∧
        declared.messages.Nodup ∧
        declared.messages = ["Key", "Shape", "GetRequest", "FindAllRequest", "FindRequest"] := by
  intro key get s
  have hroles : (s.roles.map Role.name).Nodup := by decide +kernel
  have hnames : s.definedNames.Nodup := by decide +kernel
  have hwell : s.WellFormed {} := by decide +kernel
  obtain ⟨text, h⟩ := exists_render_iff_renderable.mpr (renderable_of_wellFormed hwell)
  obtain ⟨-, hnodup, hdeclared⟩ :=
    messageNames_nodup_iff hroles (by decide +kernel) hnames (by decide +kernel) h
  obtain ⟨declared, houtline, hmessages⟩ := hdeclared hwell (by decide +kernel)
  refine ⟨hroles, hnames, text, declared, h, houtline, ?_, ?_⟩
  · rw [hmessages]
    exact hnodup.mpr (by decide +kernel)
  · rw [hmessages]
    decide +kernel

/-- Two operations of one name in different roles make two messages of one name, and the text is
read as a proto file all the same. -/
theorem messageNames_not_nodup_two_roles :
    let get : Operation := { name := "get" }
    let s : Schema := {
      space := { name := "p" }
      roles := [{ name := "A", operations := [get] }, { name := "B", operations := [get] }] }
    (s.roles.map Role.name).Nodup ∧
      (∀ r ∈ s.roles, (r.operations.map fun op => toPascal op.name).Nodup) ∧
      s.definedNames.Nodup ∧
      (∀ r ∈ s.roles, ∀ op ∈ r.operations, toPascal op.name ++ "Request" ∉ s.definedNames) ∧
      ∃ text, render {} s = .ok text ∧
        outline text = .ok {
          package := "p", services := ["A", "B"], messages := ["GetRequest", "GetRequest"] } ∧
        ¬ ((generate {} s).lines.filterMap messageName?).Nodup := by
  intro get s
  have hwell : s.WellFormed {} := by decide +kernel
  have hdeclared : s.outline {} =
      { package := "p", services := ["A", "B"], messages := ["GetRequest", "GetRequest"] } := by
    decide +kernel
  obtain ⟨text, h⟩ := exists_render_iff_renderable.mpr (renderable_of_wellFormed hwell)
  refine ⟨by decide +kernel, by decide +kernel, by decide +kernel, by decide +kernel, text, h, ?_,
    by decide +kernel⟩
  rw [← hdeclared]
  exact outline_of_wellFormed hwell (by decide +kernel) h

end Proto

end ProtoSchema
