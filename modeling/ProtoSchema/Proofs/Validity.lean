import ProtoSchema.Proofs.SchemaTokens

/-!
# Renderings are proto files

A well-formed schema can be rendered (`renderable_of_wellFormed`), its text is read as the tokens of
the schema, and these tokens are a proto file that declares what the schema says (`file_tokens`).

One name is made up where nothing is asked of the result: the field of a member of a union is called
after the member's type. The name of a type may start with underscores that a digit follows, and
then the name of the field starts with the digit. So members of unions need names of which the first
character that is no separator is no digit (`isWord_field`).
-/

namespace ProtoSchema

open Text Proto

/-- Whether the name of a member's field starts with a digit: the first character of the member's
name that is no separator is one. -/
def TypeExpr.startsWithDigit (t : TypeExpr) : Bool :=
  (t.memberName.toList.dropWhile isSeparator).head?.any Number.isDecimal

/-- What the text of a schema declares. -/
def Schema.outline (o : Options) (s : Schema) : Outline where
  package := o.packageFor s
  services := (s.roles.filter o.filterOrAll.acceptsRole).map Role.name
  messages := (s.types.map fun t => toPascal t.name) ++ (s.unions.map fun u => toPascal u.name) ++
    (o.filterOrAll.bundling s.roles).map Operation.requestName
  enums := s.enums.map fun e => toPascal e.name

/-! ## The fields of members -/

theorem isWordStart_toLower {c : Char} (h : Token.isWordChar c = true) (hupper : isUpper c = true) :
    Token.isWordStart (toLower c) = true := by
  have hz : 'z'.val.toNat = 122 := rfl
  have hlt : c.toNat < 128 := by
    simp only [Token.isWordChar, Token.isWordStart, Number.isDecimal, Bool.or_eq_true, beq_iff_eq,
      Bool.and_eq_true, decide_eq_true_eq, Char.le_def, UInt32.le_iff_toNat_le] at h
    have hval : c.toNat = c.val.toNat := rfl
    have hZ : 'Z'.val.toNat = 90 := rfl
    have hnine : '9'.val.toNat = 57 := rfl
    rcases h with ((rfl | h) | h) | h
    · decide
    · omega
    · omega
    · omega
  have hcapital := (isUpper_iff_of_ascii hlt).mp hupper
  have hlowered := toNat_toLower_of_ascii hlt
  rw [if_pos hcapital] at hlowered
  have hval : (toLower c).toNat = (toLower c).val.toNat := rfl
  have ha : 'a'.val.toNat = 97 := rfl
  simp only [Token.isWordStart, Bool.or_eq_true, Bool.and_eq_true, decide_eq_true_eq, Char.le_def,
    UInt32.le_iff_toNat_le]
  omega

/-- A name that is built last character first: of word characters, and not from a digit on. -/
def BuiltOfWord (built : List Char) : Prop :=
  (∀ c ∈ built, Token.isWordChar c = true) ∧ ∀ c ∈ built.getLast?, Number.isDecimal c = false

theorem BuiltOfWord.cons {c : Char} {built : List Char} (h : BuiltOfWord built)
    (hc : Token.isWordChar c = true) (hfirst : built = [] → Number.isDecimal c = false) :
    BuiltOfWord (c :: built) := by
  refine ⟨fun d hd => ?_, fun d hd => ?_⟩
  · rcases List.mem_cons.mp hd with rfl | hd
    · exact hc
    · exact h.1 d hd
  · cases built with
    | nil =>
      cases hd
      exact hfirst rfl
    | cons e r => exact h.2 d (by simpa using hd)

theorem BuiltOfWord.withUnderscore {built : List Char} (h : BuiltOfWord built) :
    BuiltOfWord (withUnderscore built) := by
  unfold Text.withUnderscore
  split
  · exact h
  · split
    · exact h
    · exact h.cons (by decide) (by simp)

theorem withUnderscore_eq_nil {built : List Char} : withUnderscore built = [] ↔ built = [] := by
  unfold withUnderscore
  split
  · simp
  · split <;> simp

theorem builtOfWord_snakeFrom {s built : List Char} {before : Option Char}
    (hs : ∀ c ∈ s, Token.isWordChar c = true ∨ c = '.') (h : BuiltOfWord built)
    (hfirst : built = [] → ∀ c ∈ (s.dropWhile isSeparator).head?, Number.isDecimal c = false) :
    BuiltOfWord (snakeFrom before built s) := by
  induction s generalizing before built with
  | nil => exact h
  | cons c r ih =>
    have hr : ∀ d ∈ r, Token.isWordChar d = true ∨ d = '.' :=
      fun d hd => hs d (List.mem_cons_of_mem c hd)
    rw [snakeFrom]
    by_cases hsep : isSeparator c = true
    · rw [if_pos hsep]
      refine ih hr h.withUnderscore fun hnil => ?_
      have hdrop := hfirst (withUnderscore_eq_nil.mp hnil)
      rwa [List.dropWhile_cons_of_pos hsep] at hdrop
    · have hword : Token.isWordChar c = true := by
        refine (hs c List.mem_cons_self).resolve_right ?_
        rintro rfl
        exact hsep (by decide)
      rw [if_neg hsep]
      by_cases hupper : isUpper c = true
      · have hstart := isWordStart_toLower hword hupper
        rw [if_pos hupper]
        refine ih hr (BuiltOfWord.cons ?_ (isWordChar_of_isWordStart hstart) fun _ =>
          isDecimal_of_isWordStart hstart) (by simp)
        split
        · exact h.withUnderscore
        · exact h
      · rw [if_neg hupper]
        refine ih hr (h.cons hword fun hnil => ?_) (by simp)
        rw [List.dropWhile_cons_of_neg hsep] at hfirst
        exact hfirst hnil c rfl

theorem BuiltOfWord.tail {c : Char} {built : List Char} (h : BuiltOfWord (c :: built)) :
    BuiltOfWord built := by
  refine ⟨fun d hd => h.1 d (List.mem_cons_of_mem c hd), fun d hd => h.2 d ?_⟩
  cases built with
  | nil => cases hd
  | cons e r => simpa using hd

theorem BuiltOfWord.isWord {built : List Char} (h : BuiltOfWord built) :
    isWord (built.reverse ++ "_value".toList) = true := by
  have hchars : ∀ c ∈ built.reverse, Token.isWordChar c = true :=
    fun c hc => h.1 c (List.mem_reverse.mp hc)
  have hfirst := h.2
  rw [← List.head?_reverse] at hfirst
  cases hreverse : built.reverse with
  | nil => decide
  | cons c r =>
    rw [hreverse] at hchars hfirst
    have hc := hchars c List.mem_cons_self
    rw [Token.isWordChar, hfirst c rfl, Bool.or_false] at hc
    refine isWord_append ?_ (by decide)
    rw [Proto.isWord, hc, List.all_eq_true.mpr fun d hd => hchars d (List.mem_cons_of_mem c hd)]
    rfl

theorem isWord_snake {s : List Char} (hs : ∀ c ∈ s, Token.isWordChar c = true ∨ c = '.')
    (hfirst : ∀ c ∈ (s.dropWhile isSeparator).head?, Number.isDecimal c = false) :
    isWord (snake s ++ "_value".toList) = true := by
  have hbuilt : BuiltOfWord (snakeFrom none [] s) :=
    builtOfWord_snakeFrom hs ⟨by simp, by simp⟩ fun _ => hfirst
  unfold snake
  split
  · decide
  · rename_i c built heq
    rw [heq] at hbuilt
    split
    · exact hbuilt.tail.isWord
    · exact hbuilt.isWord

theorem isPath_of_isTypeName {n : String} (h : isTypeName n = true) : isPath n = true := by
  have hscalars : ∀ x ∈ scalarNames, isPath x.1 = true := by decide
  rw [isTypeName, Bool.or_eq_true, Bool.and_eq_true] at h
  rcases h with h | h
  · obtain ⟨v, hlookup⟩ := Option.isSome_iff_exists.mp h
    obtain ⟨before, after, hsplit, -⟩ := List.lookup_eq_some_iff.mp hlookup
    exact hscalars (n, v) (by rw [hsplit]; simp)
  · exact h.1

theorem isWordChar_of_isPath {n : String} (h : isPath n = true) {c : Char} (hc : c ∈ n.toList) :
    Token.isWordChar c = true ∨ c = '.' := by
  rcases mem_cut_of_mem (· == '.') hc with hpoint | ⟨piece, hpiece, hmem⟩
  · exact .inr (beq_iff_eq.mp hpoint)
  · have hword := List.all_eq_true.mp h (String.ofList piece) (List.mem_map_of_mem hpiece)
    rw [String.toList_ofList] at hword
    exact .inl (isWordChar_of_mem hword hmem)

/-- The field of a member of a union has a word for its name. -/
theorem TypeExpr.isWord_field {t : TypeExpr} (h : t.isNamed = true)
    (hdigit : t.startsWithDigit = false) :
    isWord (toSnake t.memberName ++ "_value").toList = true := by
  obtain ⟨n, rfl, hn⟩ := TypeExpr.exists_of_isNamed h
  rw [String.toList_append, toSnake, String.toList_ofList]
  have hpath := isPath_of_isTypeName hn
  refine isWord_snake (fun c hc => isWordChar_of_isPath hpath hc) fun c hc => ?_
  rw [startsWithDigit, Option.any_eq_false] at hdigit
  simpa using hdigit c hc

/-! ## Parts of a schema as declarations -/

namespace Proto

open Rule

/-- The tokens of a key are one word. -/
theorem parts_of_mem_keyNames {key : String} (h : key ∈ keyNames) :
    parts (protoName key) = [protoName key] ∧ protoName key ∈ keyTypes := by
  revert key
  decide

theorem messageElement_of_fitsField {t : TypeExpr} (h : t.fitsField = true) (n : String)
    (k depth : Nat) :
    ReadsItem (messageElement (depth + 1)) (t.tokens ++ fieldEnd n k) () := by
  cases t with
  | named name => exact messageElement_named (isPath_protoName h).2 n k depth
  | list element =>
    obtain ⟨name, rfl, hname⟩ := TypeExpr.exists_of_isNamed h
    exact messageElement_labelled (by decide) (isPath_protoName hname).2 n k depth
  | optional inner =>
    obtain ⟨name, rfl, hname⟩ := TypeExpr.exists_of_isNamed h
    exact messageElement_labelled (by decide) (isPath_protoName hname).2 n k depth
  | map key value =>
    cases key with
    | named key =>
      obtain ⟨hkey, hvalue⟩ := Bool.and_eq_true_iff.mp h
      obtain ⟨name, rfl, hname⟩ := TypeExpr.exists_of_isNamed hvalue
      obtain ⟨hparts, htype⟩ := parts_of_mem_keyNames (List.contains_iff_mem.mp hkey)
      obtain ⟨w, ws, hpath, -⟩ := exists_of_isTypePath (isPath_protoName hname).2
      have htokens : (TypeExpr.map (.named key) (.named name)).tokens =
          mapTokens (protoName key) (parts (protoName name)) := by
        simp [TypeExpr.tokens, TypeExpr.parts, mapTokens, hparts, pathTokens]
      rw [htokens]
      exact messageElement_map htype (by simp [hpath]) n k depth
    | _ => cases h
  | absent => cases h
  | foreign type => cases h

theorem declaration_type {t : TypeDef} (h : t.WellFormed) :
    ReadsItem declaration t.tokens (.message (toPascal t.name)) := by
  refine declaration_message (fun f hf depth => ?_) _
  exact messageElement_of_fitsField (h.fields f hf).type (toSnake f.name) f.number depth

/-- The name of a request does not end as a keyword does. -/
theorem isTypePath_requestName (op : Operation) : isTypePath [op.requestName] = true := by
  have hends : ∀ k ∈ typeKeywords, ¬ "Request".toList <:+ k.toList := by decide
  rw [isTypePath, Bool.not_eq_true', ← Bool.not_eq_true, List.contains_iff_mem]
  intro hmem
  refine hends _ hmem ?_
  rw [Operation.requestName, String.toList_append]
  exact List.suffix_append _ _

theorem isTypePath_requestParts {op : Operation} (h : op.WellFormed) :
    isTypePath op.requestParts = true := by
  unfold Operation.requestParts
  cases hsole : op.soleParameter with
  | some p => exact TypeExpr.isTypePath_parts (h.sole p hsole)
  | none => exact isTypePath_requestName op

theorem isTypePath_responseParts {op : Operation} (h : op.WellFormed) :
    isTypePath op.responseParts = true := by
  unfold Operation.responseParts
  split
  · rename_i hreturns
    exact TypeExpr.isTypePath_parts (h.returns hreturns)
  · decide

theorem declaration_role {filter : Filter} {r : Role} (h : r.WellFormed filter) :
    ReadsItem declaration (r.tokens filter) (.service r.name) := by
  refine declaration_service (fun op hop => ?_) r.name
  obtain ⟨hmem, haccepts⟩ := List.mem_filter.mp hop
  have hop := h.operations op hmem haccepts
  exact serviceElement_rpc (isTypePath_requestParts hop) (isTypePath_responseParts hop) _

theorem declaration_enumDef {e : EnumDef} (h : e.WellFormed) :
    ReadsItem declaration e.tokens (.enum (toPascal e.name)) :=
  declaration_enum (fun v hv => enumElement_value (h.values v hv).name.2 v.index) _

theorem declaration_union {u : UnionDef} (h : u.WellFormed) :
    ReadsItem declaration u.tokens (.message (toPascal u.name)) := by
  have hmember : ∀ m ∈ u.types.zipIdx, ∀ body,
      ReadsItem (choiceElement body) (TypeExpr.memberTokens m) () := by
    intro m hm body
    have hnamed := h.members m.1 (List.fst_mem_of_mem_zipIdx hm)
    rw [TypeExpr.memberTokens, TypeExpr.tokens_of_isNamed hnamed]
    exact choiceElement_named (TypeExpr.isTypePath_parts hnamed) _ _
  -- the choice is the only element of the message
  have hmessage : ReadsItem declaration (blockTokens "message" (toPascal u.name)
      ([u.types.zipIdx].flatMap fun members =>
        blockTokens "oneof" "oneof" (members.flatMap TypeExpr.memberTokens))) _ :=
    declaration_message (fun members hmembers depth => by
      rw [List.mem_singleton.mp hmembers]
      exact messageElement_oneof hmember "oneof" depth) (toPascal u.name)
  rwa [List.flatMap_singleton] at hmessage

theorem intercalate_parts (s : String) : String.intercalate "." (parts s) = s := by
  have hjoin (ps : List (List Char)) :
      String.intercalate "." (ps.map String.ofList) = String.ofList (join ['.'] ps) := by
    induction ps with
    | nil => rfl
    | cons p ps ih =>
      cases ps with
      | nil => simp [join]
      | cons q qs =>
        have hsplit : join ['.'] (p :: q :: qs) = p ++ ['.'] ++ join ['.'] (q :: qs) := rfl
        rw [List.map_cons, List.map_cons, String.intercalate_cons_cons, ← List.map_cons, ih, hsplit,
          String.ofList_append, String.ofList_append]
  rw [parts, hjoin, join_cut, String.ofList_toList]

/-- Every declaration of a well-formed schema is read as what it is. -/
theorem declared_readsItem {o : Options} {s : Schema} (h : s.WellFormed o) :
    ∀ d ∈ s.declared o, ReadsItem declaration d.1 d.2 := by
  intro d hd
  simp only [Schema.declared, List.mem_append, List.mem_map, List.mem_singleton] at hd
  rcases hd with (((((rfl | hoption) | ⟨r, hr, rfl⟩) | ⟨t, ht, rfl⟩) | ⟨e, he, rfl⟩) |
    ⟨u, hu, rfl⟩) | ⟨op, hop, rfl⟩
  · have hparts : parts (o.packageFor s) ≠ [] := by
      simpa [parts] using cut_ne_nil (· == '.') (o.packageFor s).toList
    have hpackage := declaration_package hparts
    rwa [intercalate_parts] at hpackage
  · split at hoption
    · cases hoption
    · rw [List.mem_singleton.mp hoption]
      exact declaration_option "go_package"
  · exact declaration_role (h.roles r (List.mem_filter.mp hr).1 (List.mem_filter.mp hr).2)
  · exact declaration_type (h.types t ht)
  · exact declaration_enumDef (h.enums e he)
  · exact declaration_union (h.unions u hu)
  · obtain ⟨hop, hbundles⟩ := h.bundling hop
    have hrequest := declaration_type (wellFormed_request hop hbundles)
    rwa [show toPascal op.request.name = op.requestName from toPascal_requestName op] at hrequest

/-! ## What is declared -/

variable {α : Type}

/-- Adding declarations of one kind adds their names, whatever adding several names means. -/
theorem foldl_add_map {declare : String → Declaration} {g : Outline → List String → Outline}
    (hnil : ∀ o, g o [] = o) (hcons : ∀ o n ns, g (o.add (declare n)) ns = g o (n :: ns))
    (o : Outline) (f : α → String) (xs : List α) :
    (xs.map fun x => declare (f x)).foldl Outline.add o = g o (xs.map f) := by
  induction xs generalizing o with
  | nil => exact (hnil o).symm
  | cons x xs ih => rw [List.map_cons, List.foldl_cons, ih, hcons, List.map_cons]

theorem foldl_service (o : Outline) (f : α → String) (xs : List α) :
    (xs.map fun x => Declaration.service (f x)).foldl Outline.add o =
      { o with services := o.services ++ xs.map f } :=
  foldl_add_map (g := fun o ns => { o with services := o.services ++ ns }) (by simp)
    (by simp [Outline.add]) o f xs

theorem foldl_message (o : Outline) (f : α → String) (xs : List α) :
    (xs.map fun x => Declaration.message (f x)).foldl Outline.add o =
      { o with messages := o.messages ++ xs.map f } :=
  foldl_add_map (g := fun o ns => { o with messages := o.messages ++ ns }) (by simp)
    (by simp [Outline.add]) o f xs

theorem foldl_enum (o : Outline) (f : α → String) (xs : List α) :
    (xs.map fun x => Declaration.enum (f x)).foldl Outline.add o =
      { o with enums := o.enums ++ xs.map f } :=
  foldl_add_map (g := fun o ns => { o with enums := o.enums ++ ns }) (by simp)
    (by simp [Outline.add]) o f xs

theorem foldl_declared (o : Options) (s : Schema) :
    ((s.declared o).map Prod.snd).foldl Outline.add {} = s.outline o := by
  have hheader : (([(packageTokens (parts (o.packageFor s)),
      Declaration.package (o.packageFor s))] ++
        if o.goPackage.isEmpty then [] else [(optionTokens "go_package", Declaration.other)]).map
          Prod.snd).foldl Outline.add {} = { package := o.packageFor s } := by
    split <;> rfl
  rw [Schema.declared]
  simp only [List.map_append, List.foldl_append, List.map_map, Function.comp_def] at hheader ⊢
  rw [hheader]
  simp only [foldl_service, foldl_message, foldl_enum, List.nil_append]
  rfl

theorem file_tokens {o : Options} {s : Schema} (h : s.WellFormed o) :
    file (s.tokens o) = .ok (s.outline o, []) := by
  rw [Schema.tokens, file_eq (declared_readsItem h), foldl_declared]

/-! ## Renderings of well-formed schemas -/

theorem resolvable_of_isNamed {t : TypeExpr} (h : t.isNamed = true) : t.Resolvable := by
  obtain ⟨n, rfl, -⟩ := TypeExpr.exists_of_isNamed h
  trivial

theorem resolvable_of_fitsField {t : TypeExpr} (h : t.fitsField = true) : t.Resolvable := by
  cases t with
  | named n => trivial
  | list element => exact resolvable_of_isNamed (t := element) h
  | optional inner => exact resolvable_of_isNamed (t := inner) h
  | map key value =>
    cases key with
    | named k => exact ⟨trivial, resolvable_of_isNamed (Bool.and_eq_true_iff.mp h).2⟩
    | _ => cases h
  | absent => cases h
  | foreign type => cases h

theorem met_of_wellFormed {f : Field} (h : f.WellFormed) :
    f.Numbered ∧ f.type.Resolvable := by
  obtain ⟨n, hn, -⟩ := h.number
  exact ⟨⟨n, hn⟩, resolvable_of_fitsField h.type⟩

theorem renderable_of_wellFormed {o : Options} {s : Schema} (h : s.WellFormed o) :
    Renderable o s where
  operations r hr hrole op hop hoperation := by
    have hop := (h.roles r hr hrole).operations op hop hoperation
    refine ⟨fun hreturns => resolvable_of_isNamed (hop.returns hreturns), fun p hunary hp => ?_⟩
    exact resolvable_of_isNamed (hop.sole p (Operation.soleParameter_eq_some.mpr ⟨hunary, hp⟩))
  fields t ht f hf := met_of_wellFormed ((h.types t ht).fields f hf)
  parameters r hr hrole op hop hoperation hbundles p hp :=
    met_of_wellFormed (((h.roles r hr hrole).operations op hop hoperation).parameters
      (Operation.bundles_iff.mpr hbundles) p hp)
  members u hu t ht := resolvable_of_isNamed ((h.unions u hu).members t ht)

/-- A text that starts with a word has no byte-order mark. -/
theorem dropMark_of_written {o : Options} {s : Schema} {ls : List String} (h : s.WrittenAs o ls) :
    dropMark (unlines ls).toList = (unlines ls).toList := by
  obtain ⟨services, types, unions, requests, -, -, -, -, rfl⟩ := h
  simp only [header, Output.ofLines, List.cons_append, unlines, List.map_cons, String.join_cons,
    String.toList_append, List.append_assoc]
  rfl

theorem outline_of_tokens {text : String} {ts : List Token} {declared : Outline}
    (hmark : dropMark text.toList = text.toList) (htokens : tokens text.toList = ts)
    (hfile : file ts = .ok (declared, [])) : outline text = .ok declared := by
  rw [tokens] at htokens
  simp only [outline, hmark, htokens, hfile]

/-- A well-formed schema can be rendered. If no member of a union is called after a digit, then the
text is read as the tokens of the schema, and it is a proto file that declares the package, a
service for every accepted role, a message for every type, union and request, and the enums. -/
theorem outline_render {o : Options} {s : Schema} (h : s.WellFormed o)
    (hmembers : ∀ u ∈ s.unions, ∀ t ∈ u.types, t.startsWithDigit = false) :
    ∃ text, render o s = .ok text ∧ tokens text.toList = s.tokens o ∧
      outline text = .ok (s.outline o) := by
  obtain ⟨text, htext⟩ := exists_render_iff_renderable.mpr (renderable_of_wellFormed h)
  obtain ⟨ls, hls, rfl⟩ := render_eq_ok.mp htext
  have hnames : ∀ u ∈ s.unions, ∀ t ∈ u.types,
      isWord (toSnake t.memberName ++ "_value").toList = true :=
    fun u hu t ht => TypeExpr.isWord_field ((h.unions u hu).members t ht) (hmembers u hu t ht)
  have htokens : tokens (unlines ls).toList = s.tokens o := by
    simpa using readAs_schema h hnames hls []
  exact ⟨_, htext, htokens, outline_of_tokens (dropMark_of_written hls) htokens (file_tokens h)⟩

/-- Every kind of part at once, with a description that would close its block. -/
theorem outline_render_every_part :
    let number (n : Int) : Annotation := { name := "fieldnum", value := .integer .int n }
    let user : Field := {
      name := "user", type := .named "User", description := "\x7d // not the end\n\n/* nor here",
      annotations := [number 1] }
    let tags : Field := {
      name := "tagsByName", type := .map (.named "string") (.named "common.Tag"),
      annotations := [number 2] }
    let since : Field := {
      name := "since", type := .optional (.named "date"), annotations := [number 3] }
    let o : Options := { goPackage := "example.com/demo;demo" }
    let s : Schema := {
      space := { name := "demo.v1" }
      roles := [{
        name := "Users"
        operations := [
          { name := "get", parameters := [user], returns := .named "User", unary := true },
          { name := "find all", parameters := [tags, since] }] }]
      types := [{ name := "user", fields := [tags, since] }]
      enums := [{ name := "color", values := [{ name := "noColor", index := -1 }] }]
      unions := [{ name := "shape", types := [.named "_a1", .named "f64"] }] }
    s.WellFormed o ∧ ∃ text, render o s = .ok text ∧ tokens text.toList = s.tokens o ∧
      outline text = .ok {
        package := "demo.v1", services := ["Users"],
        messages := ["User", "Shape", "FindAllRequest"], enums := ["Color"] } := by
  intro number user tags since o s
  have hwell : s.WellFormed o := by decide +kernel
  have hmembers : ∀ u ∈ s.unions, ∀ t ∈ u.types, t.startsWithDigit = false := by decide +kernel
  have hdeclared : s.outline o = {
      package := "demo.v1", services := ["Users"],
      messages := ["User", "Shape", "FindAllRequest"], enums := ["Color"] } := by
    decide +kernel
  have houtline := outline_render hwell hmembers
  rw [hdeclared] at houtline
  exact ⟨hwell, houtline⟩

/-- A member of the name `_1` makes a field of the name `1_value`, which is no word. -/
theorem outline_render_digit :
    let s : Schema := {
      space := { name := "p" }, unions := [{ name := "U", types := [.named "_1"] }] }
    s.WellFormed {} ∧ ∃ text fault, render {} s = .ok text ∧ outline text = .error fault := by
  intro s
  have hrender : render {} s = .ok ("syntax = \"proto3\";\n\npackage p;\n\nmessage U \x7b\n" ++
      "  oneof oneof \x7b\n    _1 1_value = 1;\n  \x7d\n\x7d\n\n") :=
    toOption_eq_some.mp (by decide +kernel)
  have hwell : s.WellFormed {} := by decide +kernel
  refine ⟨hwell, _, { position := { line := 7, column := 8 } }, hrender, ?_⟩
  exact errorOf_eq_some.mp (by decide +kernel)

end Proto

end ProtoSchema
