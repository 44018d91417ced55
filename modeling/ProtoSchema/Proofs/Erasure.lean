import ProtoSchema.Proofs.Requests

/-!
# What a rendering does not look at

Annotations are read for three purposes: filters look for some on roles and on operations, and the
first `fieldnum` of a field numbers it. All others are there for other readers of a schema, and so
are default values and what is said about the namespace; of a parameter that is taken as it is, only
the type is read. `Schema.erase` takes all of this away, and a rendering does not notice
(`generate_erase`).

Requests are made of parameters with everything that is on them, so the two queues differ. The
observer sees them erased (`Output.erased`), which is no loss: a message is written from what
erasing leaves of it (`messageBlock_erase`).
-/

namespace ProtoSchema

/-! ## Annotations that filters look for -/

mutual

/-- The names of the annotations that a filter looks for. -/
def Filter.excluded : Filter → List String
  | .all => []
  | .roles _ => []
  | .exclude name => [name]
  | .allOf filters => Filter.allExcluded filters

/-- The names of the annotations that some filters look for. -/
def Filter.allExcluded : List Filter → List String
  | [] => []
  | f :: fs => f.excluded ++ Filter.allExcluded fs

end

/-- The annotations of some names. -/
def keepNamed (names : List String) (annotations : List Annotation) : List Annotation :=
  annotations.filter fun a => names.contains a.name

theorem has_keepNamed {names : List String} {name : String} (h : name ∈ names)
    (annotations : List Annotation) :
    Annotation.has (keepNamed names annotations) name = Annotation.has annotations name := by
  have hfind : Annotation.find? (keepNamed names annotations) name =
      Annotation.find? annotations name := by
    unfold Annotation.find? keepNamed
    rw [List.find?_filter]
    refine congrArg (List.find? · annotations) (funext fun a => ?_)
    by_cases ha : a.name = name
    · simp [ha, h]
    · simp [ha]
  unfold Annotation.has
  rw [hfind]

/-! ## Schemas without what is not looked at -/

/-- The annotation that numbers a field: the first of the name `fieldnum`. -/
def Field.numbering (f : Field) : Option Annotation := Annotation.find? f.annotations "fieldnum"

/-- The field without its default value and with no annotation but the one that numbers it. -/
def Field.erase (f : Field) : Field :=
  { f with default := .null, annotations := f.numbering.toList }

/-- The operation with annotations of some names only. If it takes its sole parameter as it is, only
the type of that is left. -/
def Operation.erase (names : List String) (op : Operation) : Operation :=
  { op with
    annotations := keepNamed names op.annotations
    parameters :=
      match op.soleParameter with
      | some p => [{ type := p.type }]
      | none => op.parameters.map Field.erase }

/-- The role with annotations of some names only. -/
def Role.erase (names : List String) (r : Role) : Role :=
  { r with
    annotations := keepNamed names r.annotations
    operations := r.operations.map (Operation.erase names) }

def TypeDef.erase (t : TypeDef) : TypeDef :=
  { t with annotations := [], fields := t.fields.map Field.erase }

def EnumDef.erase (e : EnumDef) : EnumDef := { e with annotations := [] }

def UnionDef.erase (u : UnionDef) : UnionDef := { u with annotations := [] }

/-- The schema without what a rendering does not look at, if its filter looks for annotations of
some names only. -/
def Schema.erase (names : List String) (s : Schema) : Schema where
  space := { name := s.space.name }
  roles := s.roles.map (Role.erase names)
  types := s.types.map TypeDef.erase
  enums := s.enums.map EnumDef.erase
  unions := s.unions.map UnionDef.erase

theorem Field.numbering_erase (f : Field) : f.erase.numbering = f.numbering := by
  cases h : f.numbering with
  | none =>
    simp only [erase, h]
    rfl
  | some a =>
    have hname : (a.name == "fieldnum") = true :=
      List.find?_some (p := fun a : Annotation => a.name == "fieldnum") h
    have hfind : [a].find? (·.name == "fieldnum") = some a := List.find?_cons_of_pos hname
    simp only [erase, h]
    exact hfind

theorem Field.erase_erase (f : Field) : f.erase.erase = f.erase := by
  have hnumbering := f.numbering_erase
  unfold erase at hnumbering ⊢
  rw [hnumbering]

theorem Operation.soleParameter_erase (names : List String) (op : Operation) :
    (op.erase names).soleParameter = op.soleParameter.map fun p => { type := p.type } := by
  cases h : op.soleParameter with
  | some p =>
    rw [Option.map_some, soleParameter_eq_some]
    refine ⟨(soleParameter_eq_some.mp h).1, ?_⟩
    simp only [erase, h]
  | none =>
    have hbundles := bundles_iff.mp (soleParameter_eq_none.mp h)
    rw [Option.map_none, soleParameter_eq_none, bundles_iff]
    simpa only [erase, h, List.length_map] using hbundles

/-- What is erased from an operation would be erased from its request. -/
theorem Operation.request_erase (names : List String) {op : Operation} (h : op.bundles = true) :
    (op.erase names).request.erase = op.request.erase := by
  have hfields : (op.erase names).parameters.map Field.erase = op.parameters.map Field.erase := by
    simp only [erase, soleParameter_eq_none.mpr h, List.map_map]
    exact List.map_congr_left fun f _ => f.erase_erase
  simp only [request, TypeDef.erase, hfields]
  rfl

namespace Filter

variable {names : List String}

mutual

theorem acceptsRole_erase (r : Role) :
    ∀ f : Filter, f.excluded ⊆ names → f.acceptsRole (r.erase names) = f.acceptsRole r
  | .all, _ => by rw [acceptsRole, acceptsRole]
  | .roles _, _ => by rw [acceptsRole, acceptsRole]; rfl
  | .exclude name, h => by
    rw [excluded, List.cons_subset] at h
    rw [acceptsRole, acceptsRole]
    exact congrArg (! ·) (has_keepNamed h.1 r.annotations)
  | .allOf filters, h => by
    rw [excluded] at h
    rw [acceptsRole, acceptsRole, allAcceptRole_erase r filters h]

theorem allAcceptRole_erase (r : Role) :
    ∀ fs : List Filter, allExcluded fs ⊆ names →
      allAcceptRole fs (r.erase names) = allAcceptRole fs r
  | [], _ => by rw [allAcceptRole, allAcceptRole]
  | f :: fs, h => by
    rw [allExcluded, List.append_subset] at h
    rw [allAcceptRole, allAcceptRole, acceptsRole_erase r f h.1, allAcceptRole_erase r fs h.2]

end

mutual

/-- What is erased from the role plays no part either. -/
theorem acceptsOperation_erase (r r' : Role) (op : Operation) :
    ∀ f : Filter, f.excluded ⊆ names →
      f.acceptsOperation r' (op.erase names) = f.acceptsOperation r op
  | .all, _ => by rw [acceptsOperation, acceptsOperation]
  | .roles _, _ => by rw [acceptsOperation, acceptsOperation]
  | .exclude name, h => by
    rw [excluded, List.cons_subset] at h
    rw [acceptsOperation, acceptsOperation]
    exact congrArg (! ·) (has_keepNamed h.1 op.annotations)
  | .allOf filters, h => by
    rw [excluded] at h
    rw [acceptsOperation, acceptsOperation, allAcceptOperation_erase r r' op filters h]

theorem allAcceptOperation_erase (r r' : Role) (op : Operation) :
    ∀ fs : List Filter, allExcluded fs ⊆ names →
      allAcceptOperation fs r' (op.erase names) = allAcceptOperation fs r op
  | [], _ => by rw [allAcceptOperation, allAcceptOperation]
  | f :: fs, h => by
    rw [allExcluded, List.append_subset] at h
    rw [allAcceptOperation, allAcceptOperation, acceptsOperation_erase r r' op f h.1,
      allAcceptOperation_erase r r' op fs h.2]

end

end Filter

namespace Proto

open Output

/-! ## Blocks without requests -/

theorem fieldLines_erase (f : Field) : fieldLines f.erase = fieldLines f := by
  have hnumbering := f.numbering_erase
  unfold Field.numbering at hnumbering
  have hnumber : fieldNumber f.erase = fieldNumber f := by
    unfold fieldNumber
    rw [hnumbering]
  unfold fieldLines
  rw [hnumber]
  rfl

/-- A message is written from what erasing leaves of it. -/
theorem messageBlock_erase (t : TypeDef) : messageBlock t.erase = messageBlock t := by
  have hfields : all (fun f => (fieldLines f).mapFailure (RenderError.field t.name f.name))
      (t.fields.map Field.erase) =
        all (fun f => (fieldLines f).mapFailure (.field t.name f.name)) t.fields := by
    rw [all_map]
    refine all_congr fun f _ => ?_
    rw [fieldLines_erase]
    rfl
  unfold messageBlock
  rw [← hfields]
  rfl

theorem all_messageBlock_erase (ts : List TypeDef) :
    all messageBlock (ts.map TypeDef.erase) = all messageBlock ts := by
  rw [all_map]
  exact all_congr fun t _ => messageBlock_erase t

theorem all_enumBlock_erase (es : List EnumDef) :
    (all enumBlock (es.map EnumDef.erase) : Output RenderError) = all enumBlock es :=
  all_map enumBlock EnumDef.erase es

theorem all_unionBlock_erase (us : List UnionDef) :
    all unionBlock (us.map UnionDef.erase) = all unionBlock us :=
  all_map unionBlock UnionDef.erase us

/-! ## Outputs with erased requests -/

/-- The output with its requests erased. -/
def Output.erased {ε : Type} (a : Output ε) : Output ε :=
  { a with requests := a.requests.map TypeDef.erase }

section

variable {ε δ α : Type}

theorem erased_andThen (a b : Output ε) : (a.andThen b).erased = a.erased.andThen b.erased := by
  cases h : a.failure with
  | some e => rw [andThen_of_failure h, andThen_of_failure (show a.erased.failure = some e from h)]
  | none =>
    rw [andThen_of_ok h, andThen_of_ok (show a.erased.failure = none from h)]
    simp only [erased, List.map_append]

theorem erased_all (f : α → Output ε) (l : List α) :
    (all f l).erased = all (fun a => (f a).erased) l :=
  all_of_andThen rfl erased_andThen f l

theorem erased_mapFailure (f : ε → δ) (a : Output ε) :
    (a.mapFailure f).erased = a.erased.mapFailure f := rfl

/-- Outputs that agree with their requests erased agree in everything else, and in the names of the
requests. -/
theorem eq_of_erased_eq {a b : Output ε} (h : a.erased = b.erased) :
    a.lines = b.lines ∧ a.requests.map (·.name) = b.requests.map (·.name) ∧ a.log = b.log ∧
      a.failure = b.failure := by
  simp only [erased, mk.injEq] at h
  obtain ⟨hlines, hrequests, hlog, hfailure⟩ := h
  have hnames := congrArg (List.map (·.name)) hrequests
  rw [List.map_map, List.map_map] at hnames
  exact ⟨hlines, hnames, hlog, hfailure⟩

end

/-! ## Operations and services -/

theorem erased_operationLines (names : List String) (op : Operation) :
    (operationLines (op.erase names)).erased = (operationLines op).erased := by
  have hsole := op.soleParameter_erase names
  cases h : op.soleParameter with
  | some p =>
    rw [h] at hsole
    rw [operationLines_of_sole h, operationLines_of_sole hsole]
    rfl
  | none =>
    have hbundles := Operation.soleParameter_eq_none.mp h
    rw [h] at hsole
    rw [operationLines_of_bundles hbundles,
      operationLines_of_bundles (Operation.soleParameter_eq_none.mp hsole)]
    simp only [erased_andThen]
    have hrequest : (request (op.erase names).request : Output UnsupportedType).erased =
        (request op.request).erased := by
      simp only [erased, request, List.map_cons, List.map_nil,
        Operation.request_erase names hbundles]
    rw [hrequest]
    rfl

theorem erased_serviceBlock {filter : Filter} {names : List String}
    (h : filter.excluded ⊆ names) (r : Role) :
    (serviceBlock filter (r.erase names)).erased = (serviceBlock filter r).erased := by
  refine sequence_congr erased_andThen (.cons rfl (.cons rfl (.cons ?_ (.cons rfl .nil))))
  show (all _ (r.operations.map (Operation.erase names))).erased = _
  rw [all_map, erased_all, erased_all]
  refine all_congr fun op _ => ?_
  rw [filter.acceptsOperation_erase r (r.erase names) op h]
  split
  · rw [erased_mapFailure, erased_mapFailure, erased_operationLines]
    rfl
  · rfl

/-! ## Schemas -/

theorem erased_services {filter : Filter} {names : List String}
    (h : filter.excluded ⊆ names) (roles : List Role) :
    (services filter (roles.map (Role.erase names))).erased = (services filter roles).erased := by
  unfold services
  rw [all_map, erased_all, erased_all]
  refine all_congr fun r _ => ?_
  rw [filter.acceptsRole_erase r h]
  split
  · exact erased_serviceBlock h r
  · rfl

theorem erased_declarations {o : Options} {names : List String}
    (h : o.filterOrAll.excluded ⊆ names) (s : Schema) :
    (declarations o (s.erase names)).erased = (declarations o s).erased := by
  refine sequence_congr erased_andThen
    (.cons rfl (.cons ?_ (.cons ?_ (.cons ?_ (.cons ?_ .nil)))))
  · exact erased_services h s.roles
  · exact congrArg erased (all_messageBlock_erase s.types)
  · exact congrArg erased (all_enumBlock_erase s.enums)
  · exact congrArg erased (all_unionBlock_erase s.unions)

/-- With its requests erased, a rendering does not show what was erased from the schema. -/
theorem erased_generate {o : Options} {names : List String}
    (h : o.filterOrAll.excluded ⊆ names) (s : Schema) :
    (generate o (s.erase names)).erased = (generate o s).erased := by
  have hdeclarations := erased_declarations h s
  have hrequests : (declarations o (s.erase names)).requests.map TypeDef.erase =
      (declarations o s).requests.map TypeDef.erase :=
    congrArg Output.requests hdeclarations
  unfold generate
  rw [erased_andThen, erased_andThen, hdeclarations, ← all_messageBlock_erase, hrequests,
    all_messageBlock_erase]

/-- Only the relevant parts of a schema reach the output. Of annotations these are the ones that the
filter looks for, on roles and on operations, and the first `fieldnum` of each field. Without all
others, without default values and without what is said about the namespace and about parameters
that are taken as they are, a rendering gives the same text, be it whole or written up to a failure,
fails in the same way, and makes requests of the same names. -/
theorem generate_erase (o : Options) (s : Schema) :
    let erased := s.erase o.filterOrAll.excluded
    render o erased = render o s ∧
      (generate o erased).text = (generate o s).text ∧
      (generate o erased).failure = (generate o s).failure ∧
      (generate o erased).requests.map (·.name) = (generate o s).requests.map (·.name) ∧
      (generate o erased).log = (generate o s).log := by
  intro erased
  obtain ⟨hlines, hnames, hlog, hfailure⟩ :=
    eq_of_erased_eq (erased_generate (List.Subset.refl o.filterOrAll.excluded) s)
  have htext : (generate o erased).text = (generate o s).text := by
    rw [text, hlines]
    rfl
  refine ⟨?_, htext, hfailure, hnames, hlog⟩
  simp only [render, erased, hfailure]
  rw [htext]

end Proto

end ProtoSchema
