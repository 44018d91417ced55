import ProtoSchema.Proofs.Pruning
import ProtoSchema.Proofs.Repair

/-!
# Requests spelled out

An operation that bundles its parameters could as well be written with the request message as its
only parameter, and the message could be declared as a type. `Schema.unbundle` does that throughout
a schema. What is seen of the services is the same before and after (`visible_services_unbundle`):
the name of a request is no scalar, so it is its own signature (`protoName_requestName`). The
requests are then no longer made but written with the types. So the blocks of the text are the same,
those of the requests further up (`sections_unbundle`), and without enums and unions there is
nothing between the two places, so that a rendering ends in the same way wherever it fails
(`visible_generate_unbundle`).
-/

namespace ProtoSchema

open Text Proto Output

/-- The operation with its request as its only parameter, if it bundles its parameters. `carrier`
is that parameter, but for its type. -/
def Operation.unbundle (carrier : Operation → Field) (op : Operation) : Operation :=
  if op.bundles then
    { op with parameters := [{ carrier op with type := .named op.requestName }], unary := true }
  else op

def Role.unbundle (carrier : Operation → Field) (r : Role) : Role :=
  { r with operations := r.operations.map (Operation.unbundle carrier) }

/-- The operations that bundle their parameters, in order. -/
def Schema.bundling (s : Schema) : List Operation :=
  (s.roles.flatMap Role.operations).filter Operation.bundles

/-- The schema in which no operation bundles: the requests stand behind the types, and operations
take them as they are. -/
def Schema.unbundle (carrier : Operation → Field) (s : Schema) : Schema :=
  { s with
    roles := s.roles.map (Role.unbundle carrier)
    types := s.types ++ s.bundling.map Operation.request }

variable (carrier : Operation → Field)

/-! ## Operations -/

/-- The name of a request is no scalar: none of these ends like it. -/
theorem protoName_requestName (op : Operation) : protoName op.requestName = op.requestName := by
  have hscalars : ∀ p ∈ scalarNames, ¬ "Request".toList <:+ p.1.toList := by decide +kernel
  have hlookup : scalarNames.lookup op.requestName = none := by
    rw [List.lookup_eq_none_iff]
    intro p hp
    rw [bne_iff_ne]
    intro hname
    apply hscalars p hp
    rw [← hname, Operation.requestName, String.toList_append]
    exact List.suffix_append _ _
  rw [protoName, hlookup]
  rfl

theorem Operation.soleParameter_unbundle {op : Operation} (h : op.bundles = true) :
    (op.unbundle carrier).soleParameter =
      some { carrier op with type := .named op.requestName } := by
  rw [soleParameter_eq_some, unbundle, if_pos h]
  exact ⟨rfl, rfl⟩

theorem Operation.bundles_unbundle (op : Operation) : (op.unbundle carrier).bundles = false := by
  by_cases h : op.bundles = true
  · rw [← Bool.not_eq_true]
    exact not_bundles_of_sole (soleParameter_unbundle carrier h)
  · rw [unbundle, if_neg h]
    simpa using h

theorem visible_operationLines_unbundle (op : Operation) :
    (operationLines (op.unbundle carrier)).visible = (operationLines op).visible := by
  by_cases h : op.bundles = true
  · rw [operationLines_of_sole (op.soleParameter_unbundle carrier h), visible_operationLines h]
    simp only [TypeExpr.signature, protoName_requestName, withResult]
    rw [Operation.unbundle, if_pos h]
    rfl
  · rw [Operation.unbundle, if_neg h]

theorem Operation.text_unbundle (op : Operation) : (op.unbundle carrier).text = op.text := by
  by_cases h : op.bundles = true
  · have hrequest : (op.unbundle carrier).requestText = op.requestText := by
      rw [requestText, requestText, soleParameter_unbundle carrier h, soleParameter_eq_none.mpr h]
      exact protoName_requestName op
    rw [text, text, hrequest]
    rw [unbundle, if_pos h]
    rfl
  · rw [unbundle, if_neg h]

/-! ## Services -/

theorem filter_acceptsRole_all (roles : List Role) :
    roles.filter Filter.all.acceptsRole = roles :=
  List.filter_eq_self.mpr fun r _ => Filter.acceptsRole_all r

theorem filter_acceptsOperation_all (r : Role) :
    r.operations.filter (Filter.all.acceptsOperation r) = r.operations :=
  List.filter_eq_self.mpr fun op _ => Filter.acceptsOperation_all r op

theorem Operation.name_unbundle (op : Operation) : (op.unbundle carrier).name = op.name := by
  unfold unbundle
  split <;> rfl

theorem visible_serviceBlock_unbundle (r : Role) :
    (serviceBlock .all (r.unbundle carrier)).visible = (serviceBlock .all r).visible := by
  refine sequence_congr visible_andThen (.cons rfl (.cons rfl (.cons ?_ (.cons rfl .nil))))
  simp only [Role.unbundle, all_map, visible_all, Filter.acceptsOperation_all, if_true,
    Operation.name_unbundle]
  apply all_congr
  intro op _
  exact congrArg (mapFailure _) (visible_operationLines_unbundle carrier op)

theorem visible_services_unbundle (roles : List Role) :
    (services .all (roles.map (Role.unbundle carrier))).visible = (services .all roles).visible := by
  simp only [services, all_map, visible_all, Filter.acceptsRole_all, if_true]
  exact all_congr fun r _ => visible_serviceBlock_unbundle carrier r

theorem Role.text_unbundle (r : Role) : (r.unbundle carrier).text .all = r.text .all := by
  have hoperations : (r.unbundle carrier).operations.flatMap Operation.text =
      r.operations.flatMap Operation.text := by
    rw [Role.unbundle, List.flatMap_map]
    simp only [Operation.text_unbundle]
  rw [Role.text, Role.text, filter_acceptsOperation_all, filter_acceptsOperation_all, hoperations]
  rfl

/-! ## Requests -/

theorem map_snd_accepted_all (roles : List Role) :
    (Filter.all.accepted roles).map Prod.snd = roles.flatMap Role.operations := by
  rw [Filter.accepted, filter_acceptsRole_all, List.map_flatMap]
  refine List.flatMap_congr fun r _ => ?_
  rw [filter_acceptsOperation_all, List.map_map]
  exact List.map_id _

theorem bundling_all (s : Schema) : Filter.all.bundling s.roles = s.bundling := by
  rw [Schema.bundling, ← map_snd_accepted_all, List.filter_map]
  rfl

theorem bundling_unbundle (s : Schema) : (s.unbundle carrier).bundling = [] := by
  rw [Schema.bundling, List.filter_eq_nil_iff]
  intro op hop
  obtain ⟨r, hr, hop⟩ := List.mem_flatMap.mp hop
  obtain ⟨q, _, rfl⟩ := List.mem_map.mp hr
  obtain ⟨op, _, rfl⟩ := List.mem_map.mp hop
  rw [Operation.bundles_unbundle]
  exact Bool.false_ne_true

namespace Proto

theorem requestsOf_all (s : Schema) :
    requestsOf (Filter.all.accepted s.roles) = s.bundling.map Operation.request := by
  rw [requestsOf_accepted, bundling_all]

/-- Without a filter a rendering makes the requests of all operations that bundle, once its services
are written. -/
theorem requests_services_all {s : Schema} (h : (services .all s.roles).failure = none) :
    (services .all s.roles).requests = s.bundling.map Operation.request := by
  rw [(makes_services .all s.roles).complete h, requestsOf_all]

theorem requests_services_unbundle (s : Schema) :
    (services .all (s.unbundle carrier).roles).requests = [] := by
  have hinitial := (makes_services .all (s.unbundle carrier).roles).initial
  rw [requestsOf_all, bundling_unbundle] at hinitial
  exact List.prefix_nil.mp hinitial

/-! ## Renderings -/

theorem filterOrAll_of_none {o : Options} (h : o.filter = none) : o.filterOrAll = .all := by
  rw [Options.filterOrAll, h]
  rfl

/-- A rendering succeeds if everything in it can be written. Whether a message is one of a type or
of a request makes no difference. -/
theorem failure_generate_eq_none_iff {o : Options} (hfilter : o.filter = none) (s : Schema) :
    (generate o s).failure = none ↔
      (services .all s.roles).failure = none ∧
        (∀ t ∈ s.types ++ s.bundling.map Operation.request, (messageBlock t).failure = none) ∧
        ∀ u ∈ s.unions, (unionBlock u).failure = none := by
  rw [failure_generate, failure_declarations, filterOrAll_of_none hfilter]
  simp only [Option.or_eq_none_iff, List.findSome?_eq_none_iff, List.forall_mem_append]
  constructor
  · intro ⟨⟨hservices, htypes, hunions⟩, hrequests⟩
    rw [requests_services_all hservices] at hrequests
    exact ⟨hservices, ⟨htypes, hrequests⟩, hunions⟩
  · intro ⟨hservices, ⟨htypes, hrequests⟩, hunions⟩
    rw [requests_services_all hservices]
    exact ⟨⟨hservices, htypes, hunions⟩, hrequests⟩

/-- With nothing between the types and the requests, a rendering goes through them as one list. -/
theorem generate_eq_of_plain {o : Options} (hfilter : o.filter = none) {s : Schema}
    (henums : s.enums = []) (hunions : s.unions = []) :
    generate o s = (header o s).andThen ((services .all s.roles).andThen
      (all messageBlock (s.types ++ s.bundling.map Operation.request))) := by
  show (declarations o s).andThen (all messageBlock (declarations o s).requests) = _
  rw [requests_declarations, declarations, filterOrAll_of_none hfilter, henums, hunions]
  simp only [sequence_cons, sequence_nil, all_nil, andThen_empty, andThen_assoc, all_append]
  refine congrArg _ (andThen_congr_right fun hservices => ?_)
  rw [requests_services_all hservices]

theorem types_unbundle (s : Schema) :
    (s.unbundle carrier).types ++ (s.unbundle carrier).bundling.map Operation.request =
      s.types ++ s.bundling.map Operation.request := by
  rw [bundling_unbundle, List.map_nil, List.append_nil]
  rfl

theorem failure_generate_unbundle {o : Options} (hfilter : o.filter = none) (s : Schema) :
    (generate o (s.unbundle carrier)).failure = none ↔ (generate o s).failure = none := by
  have hservices : (services .all (s.unbundle carrier).roles).failure =
      (services .all s.roles).failure := by
    have hvisible := visible_services_unbundle carrier s.roles
    exact congrArg (fun a => a.failure) hvisible
  rw [failure_generate_eq_none_iff hfilter, failure_generate_eq_none_iff hfilter, types_unbundle,
    hservices]
  rfl

theorem visible_generate_unbundle {o : Options} (hfilter : o.filter = none) {s : Schema}
    (henums : s.enums = []) (hunions : s.unions = []) :
    (generate o (s.unbundle carrier)).visible = (generate o s).visible := by
  have hservices : (services .all (s.unbundle carrier).roles).visible =
      (services .all s.roles).visible := visible_services_unbundle carrier s.roles
  have hplain : generate o (s.unbundle carrier) = _ := generate_eq_of_plain hfilter henums hunions
  rw [hplain, generate_eq_of_plain hfilter henums hunions, types_unbundle]
  simp only [visible_andThen, hservices]
  rfl

/-- The blocks of the requests stand behind those of the types. -/
theorem sections_unbundle (s : Schema) :
    (s.unbundle carrier).sections .all =
      { s.sections .all with
        types := (s.sections .all).types ++ (s.sections .all).requests
        requests := [] } := by
  simp only [Schema.sections, Sections.mk.injEq]
  refine ⟨?_, ?_, rfl, rfl, ?_⟩
  · rw [filter_acceptsRole_all, filter_acceptsRole_all, Schema.unbundle, List.map_map]
    exact List.map_congr_left fun r _ => congrArg unlines (Role.text_unbundle carrier r)
  · rw [bundling_all, Schema.unbundle, List.map_append, List.map_map]
    exact congrArg (_ ++ ·) (List.map_congr_left fun op _ => Function.comp_apply)
  · rw [bundling_all, bundling_unbundle, List.map_nil]

theorem render_eq_blocks {o : Options} (hfilter : o.filter = none) {s : Schema} {text : String}
    (h : render o s = .ok text) :
    text = unlines (headerLines (o.packageFor s) o.goPackage) ++
      String.join (s.sections .all).blocks := by
  rw [render_eq_lines h, unlines_schema, filterOrAll_of_none hfilter]

/-- What is seen of a rendering is its text, up to a failure, and its outcome. -/
theorem render_eq_of_visible_eq {o o' : Options} {s s' : Schema}
    (h : (generate o s).visible = (generate o' s').visible) :
    render o s = render o' s' ∧ (generate o s).text = (generate o' s').text := by
  simp only [visible, mk.injEq] at h
  obtain ⟨hlines, -, -, hfailure⟩ := h
  simp only [render, text, hlines, hfailure, and_self]

/-- Bundling is a short form. Without a filter, the schema whose requests are spelled out makes no
request. If the schema itself can be rendered, so can the other, with the same blocks: those of the
requests stand behind the declared types and no longer at the end. If there are neither enums nor
unions, the two renderings end alike, with the same text or the same error, and up to an error they
have written the same. -/
theorem render_unbundle (carrier : Operation → Field) {o : Options} (hfilter : o.filter = none)
    (s : Schema) :
    let spelled := s.unbundle carrier
    let header := unlines (headerLines (o.packageFor s) o.goPackage)
    let own := s.sections .all
    (generate o spelled).requests = [] ∧
      (∀ text, render o s = .ok text →
        text = header ++ String.join
          (own.services ++ own.types ++ own.enums ++ own.unions ++ own.requests) ∧
        render o spelled = .ok (header ++ String.join
          (own.services ++ own.types ++ own.requests ++ own.enums ++ own.unions))) ∧
      (s.enums = [] → s.unions = [] →
        render o spelled = render o s ∧ (generate o spelled).text = (generate o s).text) := by
  intro spelled header own
  refine ⟨?_, fun text htext => ⟨render_eq_blocks hfilter htext, ?_⟩, fun henums hunions => ?_⟩
  · rw [requests_generate, filterOrAll_of_none hfilter]
    exact requests_services_unbundle carrier s
  · have hok := (failure_generate_unbundle carrier hfilter s).mpr
      (exists_render_eq_ok.mp ⟨text, htext⟩)
    obtain ⟨text', htext'⟩ := exists_render_eq_ok.mpr hok
    have hblocks := render_eq_blocks hfilter htext'
    rw [sections_unbundle, Sections.blocks, List.append_nil, ← List.append_assoc] at hblocks
    rw [htext', hblocks]
    rfl
  · exact render_eq_of_visible_eq (visible_generate_unbundle carrier hfilter henums hunions)

/-- An operation with a request of two fields beside one that takes a declared type, with an enum;
and the same operation alone, with a parameter that has no number. -/
theorem render_unbundle_move :
    let number (n : Int) : Annotation := { name := "fieldnum", value := .integer .int n }
    let x : Field := { name := "x", type := .named "i32", annotations := [number 1] }
    let y : Field := { name := "y", type := .named "i32", annotations := [number 2] }
    let point : TypeDef := { name := "point", fields := [x, y] }
    let move : Operation := { name := "move to", parameters := [x, y] }
    let draw : Operation := {
      name := "draw", unary := true, parameters := [{ name := "at", type := .named "point" }] }
    let pen : Role := { name := "Pen", operations := [move, draw] }
    let color : EnumDef := { name := "color", values := [{ name := "ink", index := 0 }] }
    let s : Schema := {
      space := { name := "demo" }, roles := [pen], types := [point], enums := [color] }
    let unnumbered : Operation := { move with parameters := [{ x with annotations := [] }] }
    let broken : Schema := { roles := [{ name := "Pen", operations := [unnumbered] }] }
    let carrier (op : Operation) : Field := { name := op.name }
    let header := "syntax = \"proto3\";\n\npackage demo;\n\n"
    ∃ text, render {} s = .ok text ∧
      text = header ++ unlines (pen.text .all) ++ unlines point.text ++ unlines color.text ++
        unlines move.request.text ∧
      render {} (s.unbundle carrier) = .ok (header ++ unlines (pen.text .all) ++
        unlines point.text ++ unlines move.request.text ++ unlines color.text) ∧
      render {} (broken.unbundle carrier) =
        .error (.field move.requestName "x" .missingNumber) := by
  intro number x y point move draw pen color s unnumbered broken carrier header
  have hok : (generate {} s).failure = none := Option.isNone_iff_eq_none.mp (by decide +kernel)
  obtain ⟨text, htext⟩ := exists_render_eq_ok.mpr hok
  obtain ⟨-, hmoved, -⟩ := render_unbundle carrier (o := {}) rfl s
  obtain ⟨-, -, hplain⟩ := render_unbundle carrier (o := {}) rfl broken
  obtain ⟨hown, hspelled⟩ := hmoved text htext
  have hheader : unlines (headerLines (Options.packageFor {} s) "") = header := by decide +kernel
  refine ⟨text, htext, ?_, ?_, ?_⟩
  · rw [hown, hheader]
    show header ++ String.join [unlines (pen.text .all), unlines point.text, unlines color.text,
      unlines move.request.text] = _
    simp [String.append_assoc]
  · rw [hspelled, hheader]
    show Except.ok (header ++ String.join [unlines (pen.text .all), unlines point.text,
      unlines move.request.text, unlines color.text]) = _
    simp [String.append_assoc]
  · rw [(hplain rfl rfl).1, render_eq_error, failure_eq_findSome_error]
    rfl

end Proto

end ProtoSchema
