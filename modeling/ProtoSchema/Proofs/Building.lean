import ProtoSchema.Proofs.Results
import ProtoSchema.Schema.Load

/-!
# What a schema is built from

For each part of a schema, `Builds` says which parts as written it can have come from: one with a
name whose texts for types can be read, and with everything else as it was. Building gives a schema
exactly if the schema as written builds it (`Schema.build_eq_ok`).
-/

namespace ProtoSchema.Source

/-! ## Parts and what they build -/

/-- The text is read as the type. -/
def BuildsType (text : String) (t : TypeExpr) : Prop := TypeExpr.parse text = .ok t

/-- The text is read as the type, or is empty where there is no type. -/
def BuildsReturns (text : String) (t : TypeExpr) : Prop :=
  if text = "" then t = .absent else BuildsType text t

structure Field.Builds (f : Field) (g : ProtoSchema.Field) : Prop where
  named : f.name ≠ ""
  name : g.name = f.name
  description : g.description = f.description
  type : BuildsType f.type g.type
  default : g.default = f.default
  annotations : g.annotations = f.annotations

structure Operation.Builds (o : Operation) (p : ProtoSchema.Operation) : Prop where
  named : o.name ≠ ""
  name : p.name = o.name
  description : p.description = o.description
  annotations : p.annotations = o.annotations
  parameters : List.Forall₂ Field.Builds o.parameters p.parameters
  arity : o.unary = true → o.parameters.length = 1
  returns : BuildsReturns o.returns p.returns
  unary : p.unary = o.unary

structure Role.Builds (r : Role) (q : ProtoSchema.Role) : Prop where
  named : r.name ≠ ""
  name : q.name = r.name
  description : q.description = r.description
  annotations : q.annotations = r.annotations
  operations : List.Forall₂ Operation.Builds r.operations q.operations

structure TypeDef.Builds (t : TypeDef) (u : ProtoSchema.TypeDef) : Prop where
  named : t.name ≠ ""
  name : u.name = t.name
  description : u.description = t.description
  annotations : u.annotations = t.annotations
  fields : List.Forall₂ Field.Builds t.fields u.fields

structure EnumValue.Builds (v : EnumValue) (w : ProtoSchema.EnumValue) : Prop where
  named : v.name ≠ ""
  name : w.name = v.name
  description : w.description = v.description
  index : v.index = some w.index

structure EnumDef.Builds (e : EnumDef) (d : ProtoSchema.EnumDef) : Prop where
  named : e.name ≠ ""
  name : d.name = e.name
  description : d.description = e.description
  annotations : d.annotations = e.annotations
  values : List.Forall₂ EnumValue.Builds e.values d.values

structure UnionDef.Builds (u : UnionDef) (w : ProtoSchema.UnionDef) : Prop where
  named : u.name ≠ ""
  name : w.name = u.name
  description : w.description = u.description
  annotations : w.annotations = u.annotations
  types : List.Forall₂ BuildsType u.types w.types

structure Schema.Builds (s : Schema) (t : ProtoSchema.Schema) : Prop where
  named : s.space.name ≠ ""
  space : t.space = ⟨s.space.name, s.space.description, s.space.annotations⟩
  roles : List.Forall₂ Role.Builds s.roles t.roles
  types : List.Forall₂ TypeDef.Builds s.types t.types
  enums : List.Forall₂ EnumDef.Builds s.enums t.enums
  unions : List.Forall₂ UnionDef.Builds s.unions t.unions

/-! ## Lists of parts -/

/-- The items of a list are built one by one; their positions matter for errors only. -/
theorem buildAll_eq_ok {α β : Type} {R : α → β → Prop} {build : α → Except BuildError β}
    (hbuild : ∀ a b, build a = .ok b ↔ R a b) {list : String} {index : Nat} {as : List α}
    {bs : List β} : buildAll list build index as = .ok bs ↔ List.Forall₂ R as bs := by
  induction as generalizing index bs with
  | nil => simp [buildAll, eq_comm]
  | cons a as ih =>
    simp only [buildAll, bind_eq_ok, within, mapError_eq_ok, hbuild, ih, pure, Except.pure,
      Except.ok.injEq, List.forall₂_cons_left_iff]
    constructor
    · rintro ⟨b, hb, bs', hbs, rfl⟩
      exact ⟨b, bs', hb, hbs, rfl⟩
    · rintro ⟨b, bs', hb, hbs, rfl⟩
      exact ⟨b, hb, bs', hbs, rfl⟩

theorem buildType_eq_ok {text : String} {t : TypeExpr} :
    buildType text = .ok t ↔ BuildsType text t := by
  rw [buildType, mapError_eq_ok, BuildsType]

theorem buildReturns_eq_ok {text : String} {t : TypeExpr} :
    buildReturns text = .ok t ↔ BuildsReturns text t := by
  unfold buildReturns BuildsReturns
  simp only [String.isEmpty_iff]
  split
  · simp [eq_comm]
  · rw [within, mapError_eq_ok, buildType_eq_ok]

theorem buildFields_eq_ok {list kind : String} {index : Nat} {fs : List Field}
    {gs : List ProtoSchema.Field} :
    buildFields list kind index fs = .ok gs ↔ List.Forall₂ Field.Builds fs gs := by
  induction fs generalizing index gs with
  | nil => simp [buildFields, eq_comm]
  | cons f fs ih =>
    simp only [buildFields, ite_throw_eq_ok, bind_eq_ok, within, mapError_eq_ok, buildType_eq_ok,
      ih, pure, Except.pure, Except.ok.injEq, List.forall₂_cons_left_iff, String.isEmpty_iff]
    constructor
    · rintro ⟨named, type, htype, gs', hgs, rfl⟩
      exact ⟨_, gs', ⟨named, rfl, rfl, htype, rfl, rfl⟩, hgs, rfl⟩
    · rintro ⟨⟨⟩, gs', ⟨named, rfl, rfl, htype, rfl, rfl⟩, hgs, rfl⟩
      exact ⟨named, _, htype, gs', hgs, rfl⟩

theorem buildValues_eq_ok {index : Nat} {vs : List EnumValue} {ws : List ProtoSchema.EnumValue} :
    buildValues index vs = .ok ws ↔ List.Forall₂ EnumValue.Builds vs ws := by
  induction vs generalizing index ws with
  | nil => simp [buildValues, eq_comm]
  | cons v vs ih =>
    simp only [buildValues, ite_throw_eq_ok, List.forall₂_cons_left_iff, String.isEmpty_iff]
    constructor
    · rintro ⟨named, h⟩
      cases hv : v.index with
      | none =>
        rw [hv] at h
        cases h
      | some n =>
        simp only [hv, bind_eq_ok, ih, pure, Except.pure, Except.ok.injEq] at h
        obtain ⟨ws', hws, rfl⟩ := h
        exact ⟨_, ws', ⟨named, rfl, rfl, hv⟩, hws, rfl⟩
    · rintro ⟨⟨⟩, ws', ⟨named, rfl, rfl, hv⟩, hws, rfl⟩
      simp only [hv, bind_eq_ok, ih, pure, Except.pure, Except.ok.injEq]
      exact ⟨named, ws', hws, rfl⟩

/-! ## Building -/

theorem Operation.build_eq_ok (o : Operation) (p : ProtoSchema.Operation) :
    o.build = .ok p ↔ o.Builds p := by
  simp only [Operation.build, ite_error_eq_ok, ite_throw_eq_ok, bind_eq_ok, within, mapError_eq_ok,
    buildFields_eq_ok, buildReturns_eq_ok, pure, Except.pure, Except.ok.injEq, String.isEmpty_iff,
    Bool.and_eq_true, decide_eq_true_eq, not_and, not_not]
  constructor
  · rintro ⟨named, parameters, hps, arity, returns, hr, rfl⟩
    refine ⟨named, rfl, rfl, rfl, hps, ?_, hr, rfl⟩
    -- the arity is checked on what was built, and that is as long as what was written
    intro hu
    rw [hps.length_eq, arity hu]
  · obtain ⟨name, description, annotations, parameters, returns, unary⟩ := p
    rintro ⟨named, rfl, rfl, rfl, hps, arity, hr, rfl⟩
    refine ⟨named, parameters, hps, ?_, returns, hr, rfl⟩
    intro hu
    rw [← hps.length_eq, arity hu]

theorem Role.build_eq_ok (r : Role) (q : ProtoSchema.Role) : r.build = .ok q ↔ r.Builds q := by
  simp only [Role.build, ite_error_eq_ok, bind_eq_ok, within, mapError_eq_ok,
    buildAll_eq_ok Operation.build_eq_ok, pure, Except.pure, Except.ok.injEq, String.isEmpty_iff]
  constructor
  · rintro ⟨named, operations, hops, rfl⟩
    exact ⟨named, rfl, rfl, rfl, hops⟩
  · obtain ⟨name, description, annotations, operations⟩ := q
    rintro ⟨named, rfl, rfl, rfl, hops⟩
    exact ⟨named, operations, hops, rfl⟩

theorem TypeDef.build_eq_ok (t : TypeDef) (u : ProtoSchema.TypeDef) :
    t.build = .ok u ↔ t.Builds u := by
  simp only [TypeDef.build, ite_error_eq_ok, bind_eq_ok, within, mapError_eq_ok, buildFields_eq_ok,
    pure, Except.pure, Except.ok.injEq, String.isEmpty_iff]
  constructor
  · rintro ⟨named, fields, hfs, rfl⟩
    exact ⟨named, rfl, rfl, rfl, hfs⟩
  · obtain ⟨name, description, annotations, fields⟩ := u
    rintro ⟨named, rfl, rfl, rfl, hfs⟩
    exact ⟨named, fields, hfs, rfl⟩

theorem EnumDef.build_eq_ok (e : EnumDef) (d : ProtoSchema.EnumDef) :
    e.build = .ok d ↔ e.Builds d := by
  simp only [EnumDef.build, ite_error_eq_ok, bind_eq_ok, within, mapError_eq_ok, buildValues_eq_ok,
    pure, Except.pure, Except.ok.injEq, String.isEmpty_iff]
  constructor
  · rintro ⟨named, values, hvs, rfl⟩
    exact ⟨named, rfl, rfl, rfl, hvs⟩
  · obtain ⟨name, description, annotations, values⟩ := d
    rintro ⟨named, rfl, rfl, rfl, hvs⟩
    exact ⟨named, values, hvs, rfl⟩

theorem UnionDef.build_eq_ok (u : UnionDef) (w : ProtoSchema.UnionDef) :
    u.build = .ok w ↔ u.Builds w := by
  simp only [UnionDef.build, ite_error_eq_ok, bind_eq_ok, within, mapError_eq_ok, mapM_eq_ok,
    buildType_eq_ok, pure, Except.pure, Except.ok.injEq, String.isEmpty_iff]
  constructor
  · rintro ⟨named, types, hts, rfl⟩
    exact ⟨named, rfl, rfl, rfl, hts⟩
  · obtain ⟨name, description, annotations, types⟩ := w
    rintro ⟨named, rfl, rfl, rfl, hts⟩
    exact ⟨named, types, hts, rfl⟩

/-- Building gives the schemas that the schema as written builds, and fails where there are none. -/
theorem Schema.build_eq_ok (s : Schema) (t : ProtoSchema.Schema) :
    s.build = .ok t ↔ s.Builds t := by
  simp only [Schema.build, ite_throw_eq_ok, bind_eq_ok, buildAll_eq_ok Role.build_eq_ok,
    buildAll_eq_ok TypeDef.build_eq_ok, buildAll_eq_ok EnumDef.build_eq_ok,
    buildAll_eq_ok UnionDef.build_eq_ok, pure, Except.pure, Except.ok.injEq, String.isEmpty_iff]
  constructor
  · rintro ⟨named, roles, hroles, types, htypes, enums, henums, unions, hunions, rfl⟩
    exact ⟨named, rfl, hroles, htypes, henums, hunions⟩
  · obtain ⟨space, roles, types, enums, unions⟩ := t
    rintro ⟨named, rfl, hroles, htypes, henums, hunions⟩
    exact ⟨named, roles, hroles, types, htypes, enums, henums, unions, hunions, rfl⟩

end ProtoSchema.Source
