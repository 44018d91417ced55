import ProtoSchema.Proofs.Building
import ProtoSchema.Proofs.Obligations
import ProtoSchema.Proofs.TypeGrammar

/-!
# Loaded schemas

Every type in a schema that was loaded has been read from a text, so it is resolvable, and its
unary operations have exactly one parameter. `Typed` is that invariant, and `loadWith_typed` says
that loading establishes it, whatever reads the text. All that a typed schema can lack is the
number of a field, and in rendering it `unary` alone decides which operations make requests.
-/

namespace ProtoSchema

/-! ## The types that are read -/

namespace TypeExpr

mutual

theorem Derives.resolvable {s : List Char} {t : TypeExpr} : Derives s t → t.Resolvable
  | .padded _ h _ => h.resolvable

theorem DerivesCore.resolvable {s : List Char} {t : TypeExpr} : DerivesCore s t → t.Resolvable
  | .name _ => trivial
  | .list h => h.resolvable
  | .map hkey hvalue => ⟨hkey.resolvable, hvalue.resolvable⟩
  | .optional h => h.resolvable

end

end TypeExpr

theorem Source.BuildsType.resolvable {text : String} {t : TypeExpr}
    (h : Source.BuildsType text t) : t.Resolvable :=
  (TypeExpr.parseChars_eq_ok_iff.mp h).resolvable

/-! ## Typed schemas -/

structure Operation.Typed (op : Operation) : Prop where
  parameters : ∀ p ∈ op.parameters, p.type.Resolvable
  arity : op.unary = true → op.parameters.length = 1
  returns : op.returnsValue = true → op.returns.Resolvable

/-- All types are resolvable, and unary operations have one parameter. -/
structure Schema.Typed (s : Schema) : Prop where
  operations : ∀ r ∈ s.roles, ∀ op ∈ r.operations, op.Typed
  fields : ∀ t ∈ s.types, ∀ f ∈ t.fields, f.type.Resolvable
  members : ∀ u ∈ s.unions, ∀ t ∈ u.types, t.Resolvable

/-- What holds of everything that is built holds of all members of a list that is built. -/
theorem forall_mem_of_forall₂ {α β : Type} {R : α → β → Prop} {P : β → Prop} {as : List α}
    {bs : List β} (h : List.Forall₂ R as bs) (hP : ∀ a b, R a b → P b) : ∀ b ∈ bs, P b := by
  induction h with
  | nil => simp
  | cons hab _ ih => exact List.forall_mem_cons.mpr ⟨hP _ _ hab, ih⟩

namespace Source

theorem resolvable_of_builds_fields {fs : List Field} {gs : List ProtoSchema.Field}
    (h : List.Forall₂ Field.Builds fs gs) : ∀ g ∈ gs, g.type.Resolvable :=
  forall_mem_of_forall₂ h fun _ _ hf => hf.type.resolvable

theorem Operation.Builds.typed {o : Operation} {p : ProtoSchema.Operation} (h : o.Builds p) :
    p.Typed where
  parameters := resolvable_of_builds_fields h.parameters
  arity hu := by
    rw [← h.parameters.length_eq]
    exact h.arity (h.unary ▸ hu)
  returns hv := by
    have hr := h.returns
    unfold BuildsReturns at hr
    split at hr
    · -- an absent type is not one of a value
      rw [ProtoSchema.Operation.returnsValue, hr] at hv
      exact absurd hv (by decide)
    · exact hr.resolvable

theorem Schema.Builds.typed {s : Schema} {t : ProtoSchema.Schema} (h : s.Builds t) : t.Typed where
  operations := forall_mem_of_forall₂ h.roles fun _ _ hr =>
    forall_mem_of_forall₂ hr.operations fun _ _ ho => ho.typed
  fields := forall_mem_of_forall₂ h.types fun _ _ ht => resolvable_of_builds_fields ht.fields
  members := forall_mem_of_forall₂ h.unions fun _ _ hu =>
    forall_mem_of_forall₂ hu.types fun _ _ ht => ht.resolvable

end Source

theorem loadWith_eq_ok {read : List Char → Except Source.ReadError Source.Schema} {text : String}
    {s : Schema} :
    Schema.loadWith read text = .ok s ↔
      ∃ source, read text.toList = .ok source ∧ source.Builds s := by
  simp only [Schema.loadWith, bind_eq_ok, mapError_eq_ok, Source.Schema.build_eq_ok]

theorem loadWith_typed {read : List Char → Except Source.ReadError Source.Schema} {text : String}
    {s : Schema} (h : Schema.loadWith read text = .ok s) : s.Typed := by
  obtain ⟨source, -, hbuilds⟩ := loadWith_eq_ok.mp h
  exact hbuilds.typed

/-! ## Rendering a typed schema -/

theorem Operation.Typed.bundles_eq {op : Operation} (h : op.Typed) : op.bundles = !op.unary := by
  unfold bundles
  cases hu : op.unary with
  | false => rfl
  | true => rw [h.arity hu]; rfl

theorem Schema.Typed.accepted {s : Schema} (h : s.Typed) (f : Filter) :
    ∀ x ∈ f.accepted s.roles, x.2.Typed := by
  intro x hx
  obtain ⟨hr, -, hop, -⟩ := Filter.mem_accepted.mp hx
  exact h.operations x.1 hr x.2 hop

namespace Proto

open Obligation

theorem met_operationObligations_of_typed {op : Operation} (h : op.Typed) (r : Role) :
    ∀ x ∈ operationObligations r op, x.Met := by
  refine met_operationObligations.mpr ⟨h.returns, ?_⟩
  intro p _ hp
  exact h.parameters p (by rw [hp]; exact List.mem_singleton_self p)

theorem met_messageObligations_of_resolvable {t : TypeDef}
    (h : ∀ f ∈ t.fields, f.type.Resolvable) :
    ∀ x ∈ messageObligations t, x.asksNumber = false → x.Met := by
  intro x hx hn
  obtain ⟨f, hf, hx⟩ := List.mem_flatMap.mp hx
  simp only [List.mem_cons, List.not_mem_nil, or_false] at hx
  rcases hx with rfl | rfl
  · cases hn
  · exact h f hf

/-- A typed schema meets every obligation but those for numbers. -/
theorem met_of_typed {s : Schema} (h : s.Typed) (o : Options) :
    ∀ x ∈ obligations o s, x.asksNumber = false → x.Met := by
  have hops := h.accepted o.filterOrAll
  simp only [obligations, List.forall_mem_append, List.forall_mem_flatMap]
  refine ⟨⟨⟨?_, ?_⟩, ?_⟩, ?_⟩
  · intro a ha x hx _
    exact met_operationObligations_of_typed (hops a ha) a.1 x hx
  · intro t ht
    exact met_messageObligations_of_resolvable (h.fields t ht)
  · intro u hu x hx _
    obtain ⟨t, ht, rfl⟩ := List.mem_map.mp hx
    exact h.members u hu t ht
  · intro t ht
    obtain ⟨a, ha, rfl⟩ := List.mem_map.mp ht
    exact met_messageObligations_of_resolvable (hops a (List.mem_filter.mp ha).1).parameters

theorem isMissingNumber_of_typed {s : Schema} (h : s.Typed) {o : Options} {e : RenderError}
    (he : (generate o s).failure = some e) : e.isMissingNumber = true := by
  rw [failure_eq_findSome_error, List.findSome?_eq_some_iff] at he
  obtain ⟨before, x, after, hsplit, hx, -⟩ := he
  rw [isMissingNumber_of_error? hx]
  -- an obligation that asks for a type would be met
  by_contra hn
  have hmet : x.Met := met_of_typed h o x (by rw [hsplit]; simp) (Bool.not_eq_true _ ▸ hn)
  rw [error?_eq_none_iff.mpr hmet] at hx
  cases hx

/-- The services of a typed schema do not fail, so all their requests are made even in a rendering
that fails later. -/
theorem requests_of_typed {s : Schema} (h : s.Typed) (o : Options) :
    (generate o s).requests =
      ((o.filterOrAll.accepted s.roles).filter fun x => !x.2.unary).map fun x => x.2.request := by
  have hops := h.accepted o.filterOrAll
  have hservices : (services o.filterOrAll s.roles).failure = none := by
    rw [failure_services_eq_findSome_error, List.findSome?_eq_none_iff]
    intro x hx
    rw [List.findSome?_eq_none_iff]
    intro y hy
    exact error?_eq_none_iff.mpr (met_operationObligations_of_typed (hops x hx) x.1 y hy)
  rw [requests_generate, (makes_services ..).complete hservices, requestsOf]
  refine congrArg (List.map _) (List.filter_congr fun x hx => ?_)
  exact (hops x hx).bundles_eq

/-- A schema that was loaded is rendered, unless the number of a field is missing; and of the
operations that are accepted exactly those that are not unary make a request. -/
theorem render_of_loadWith {read : List Char → Except Source.ReadError Source.Schema}
    {text : String} {s : Schema} (h : Schema.loadWith read text = .ok s) (o : Options) :
    ((∃ t, render o s = .ok t) ∨ ∃ e, render o s = .error e ∧ e.isMissingNumber = true) ∧
      (generate o s).requests =
        ((o.filterOrAll.accepted s.roles).filter fun x => !x.2.unary).map fun x => x.2.request := by
  have htyped := loadWith_typed h
  refine ⟨?_, requests_of_typed htyped o⟩
  cases hf : (generate o s).failure with
  | none => exact .inl (exists_render_eq_ok.mpr hf)
  | some e => exact .inr ⟨e, render_eq_error.mpr hf, isMissingNumber_of_typed htyped hf⟩

/-- Two operations with an unnumbered parameter, the first of them unary: the rendering fails in the
request of the second. -/
theorem render_of_loadWith_unnumbered :
    let text := "namespace: a\nroles: [\x7bname: R, operations: [" ++
      "\x7bname: F, unary: true, parameters: [\x7bname: p, type: A\x7d]\x7d, " ++
      "\x7bname: G, parameters: [\x7bname: q, type: B\x7d]\x7d]\x7d]"
    ∃ s, Schema.loadWith Source.read text = .ok s ∧
      (generate {} s).requests.map (·.name) = ["GRequest"] ∧
      (∃ e, render {} s = .error e ∧ e.isMissingNumber = true) ∧
      (generate {} s).requests =
        ((Filter.all.accepted s.roles).filter fun x => !x.2.unary).map fun x => x.2.request := by
  intro text
  have hrun : (Schema.loadWith Source.read text).toOption.map (fun s =>
      ((generate {} s).requests.map (·.name), (generate {} s).failure.isSome)) =
        some (["GRequest"], true) := by
    decide +kernel
  obtain ⟨s, hsome, houtput⟩ := Option.map_eq_some_iff.mp hrun
  obtain ⟨hrequests, hfailure⟩ := Prod.mk.inj houtput
  have hload := toOption_eq_some.mp hsome
  obtain ⟨houtcome, hmade⟩ := render_of_loadWith hload {}
  refine ⟨s, hload, hrequests, houtcome.resolve_left ?_, hmade⟩
  rw [exists_render_eq_ok, ← Option.not_isSome_iff_eq_none, hfailure]
  simp

end Proto

end ProtoSchema
