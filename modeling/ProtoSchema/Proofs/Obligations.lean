import ProtoSchema.Proofs.Requests
import ProtoSchema.Proofs.Resolution

/-!
# When a rendering fails, and with what

Rendering a schema comes down to a list of obligations: this type must be resolvable, this field
must have a number. `obligations` lists them in the order in which a rendering comes to them. The
rendering fails with the error of the first one that is not met (`failure_eq_findSome_error`), so
it succeeds exactly if all are met.

The parameters of an operation that bundles are asked for twice in different ways and at different
times: nothing of them is needed for the line of the operation, all of them for its request message,
which comes last.
-/

namespace ProtoSchema

/-- The first annotation of the name `fieldnum` holds this number. -/
def Field.HasNumber (f : Field) (n : Int) : Prop :=
  ∃ before a after, f.annotations = before ++ a :: after ∧ a.name = "fieldnum" ∧
    (∀ b ∈ before, b.name ≠ "fieldnum") ∧ a.toInt = .ok n

/-- The field has a usable number. -/
def Field.Numbered (f : Field) : Prop := ∃ n, f.HasNumber n

namespace Proto

open Output

/-! ## Obligations -/

/-- Something that a rendering needs, and where. -/
inductive Obligation where
  | rpcType (role operation : String) (type : TypeExpr)
  | fieldNumber (message : String) (field : Field)
  | fieldType (message : String) (field : Field)
  | memberType (union : String) (type : TypeExpr)

namespace Obligation

/-- The schema has what is needed. -/
def Met : Obligation → Prop
  | rpcType _ _ t => t.Resolvable
  | fieldNumber _ f => f.Numbered
  | fieldType _ f => f.type.Resolvable
  | memberType _ t => t.Resolvable

/-- Whether a number is needed; otherwise it is a type. -/
def asksNumber : Obligation → Bool
  | fieldNumber _ _ => true
  | _ => false

/-- The error for an obligation that is not met. -/
def error? : Obligation → Option RenderError
  | rpcType r op t => (errorOf t.signature).map (.operation r op)
  | fieldNumber m f => (errorOf (Proto.fieldNumber f)).map (.field m f.name)
  | fieldType m f =>
    (errorOf f.type.signature).map fun cause => .field m f.name (.unsupportedType cause)
  | memberType u t => (errorOf t.signature).map (.member u)

end Obligation

open Obligation

/-- What the line of an operation needs: the type of a sole parameter, then that of the result. -/
def operationObligations (r : Role) (op : Operation) : List Obligation :=
  (if op.bundles then [] else op.parameters.map fun p => rpcType r.name op.name p.type) ++
    if op.returnsValue then [rpcType r.name op.name op.returns] else []

/-- What a message needs: for every field its number, then its type. -/
def messageObligations (t : TypeDef) : List Obligation :=
  t.fields.flatMap fun f => [.fieldNumber t.name f, .fieldType t.name f]

/-- What a union needs. -/
def unionObligations (u : UnionDef) : List Obligation := u.types.map (memberType u.name)

/-- All that a rendering needs, in the order in which it comes to it: services, types, unions,
requests. -/
def obligations (o : Options) (s : Schema) : List Obligation :=
  let accepted := o.filterOrAll.accepted s.roles
  (accepted.flatMap fun x => operationObligations x.1 x.2) ++ s.types.flatMap messageObligations ++
    s.unions.flatMap unionObligations ++ (requestsOf accepted).flatMap messageObligations

/-! ## Single obligations -/

theorem fieldNumber_eq_ok {f : Field} {n : Int} : fieldNumber f = .ok n ↔ f.HasNumber n := by
  have hfind : fieldNumber f = .ok n ↔
      ∃ a, Annotation.find? f.annotations "fieldnum" = some a ∧ a.toInt = .ok n := by
    rw [fieldNumber]
    cases Annotation.find? f.annotations "fieldnum" with
    | none => simp
    | some a => simp [mapError_eq_ok]
  simp only [hfind, Field.HasNumber, Annotation.find?, List.find?_eq_some_iff_append, beq_iff_eq,
    Bool.not_eq_true', beq_eq_false_iff_ne]
  constructor
  · rintro ⟨a, ⟨hname, before, after, hsplit, hbefore⟩, hn⟩
    exact ⟨before, a, after, hsplit, hname, hbefore, hn⟩
  · rintro ⟨before, a, after, hsplit, hname, hbefore, hn⟩
    exact ⟨a, ⟨hname, before, after, hsplit, hbefore⟩, hn⟩

theorem errorOf_fieldNumber_eq_none {f : Field} : errorOf (fieldNumber f) = none ↔ f.Numbered := by
  rw [errorOf_eq_none, Field.Numbered]
  simp only [fieldNumber_eq_ok]

theorem error?_eq_none_iff {x : Obligation} : x.error? = none ↔ x.Met := by
  cases x with
  | rpcType r op t => rw [error?, Option.map_eq_none_iff, TypeExpr.errorOf_signature_eq_none, Met]
  | fieldNumber m f => rw [error?, Option.map_eq_none_iff, errorOf_fieldNumber_eq_none, Met]
  | fieldType m f => rw [error?, Option.map_eq_none_iff, TypeExpr.errorOf_signature_eq_none, Met]
  | memberType u t => rw [error?, Option.map_eq_none_iff, TypeExpr.errorOf_signature_eq_none, Met]

/-- The kind of an error is the kind of what was needed. -/
theorem isMissingNumber_of_error? {x : Obligation} {e : RenderError} (h : x.error? = some e) :
    e.isMissingNumber = x.asksNumber := by
  cases x with
  | rpcType r op t =>
    obtain ⟨cause, -, rfl⟩ := Option.map_eq_some_iff.mp h
    rfl
  | fieldNumber m f =>
    obtain ⟨cause, hc, rfl⟩ := Option.map_eq_some_iff.mp h
    rw [fieldNumber] at hc
    cases ha : Annotation.find? f.annotations "fieldnum" with
    | none =>
      rw [ha] at hc
      cases hc
      rfl
    | some a =>
      rw [ha] at hc
      simp only [errorOf_mapError] at hc
      obtain ⟨cause', -, rfl⟩ := Option.map_eq_some_iff.mp hc
      rfl
  | fieldType m f =>
    obtain ⟨cause, -, rfl⟩ := Option.map_eq_some_iff.mp h
    rfl
  | memberType u t =>
    obtain ⟨cause, -, rfl⟩ := Option.map_eq_some_iff.mp h
    rfl

/-! ## The first obligation that is not met -/

theorem failure_rpcLine (op : Operation) (request : String) :
    (rpcLine op request).failure =
      if op.returnsValue then errorOf op.returns.signature else none := by
  refine (failure_withResult_of_none (fun _ => rfl) _).trans ?_
  unfold responseType
  split <;> rfl

theorem failure_operationLines (r : Role) (op : Operation) :
    (operationLines op).failure.map (RenderError.operation r.name op.name) =
      (operationObligations r op).findSome? error? := by
  have hreturns : ∀ request, (rpcLine op request).failure.map (.operation r.name op.name) =
      (if op.returnsValue then [rpcType r.name op.name op.returns] else []).findSome? error? := by
    intro request
    rw [failure_rpcLine]
    split
    · simp [error?]
    · rfl
  unfold operationObligations
  rw [List.findSome?_append]
  cases h : op.soleParameter with
  | some p =>
    rw [operationLines_of_sole h, failure_withResult (failure_rpcLine op), Option.map_or,
      ← failure_rpcLine op "", hreturns, if_neg (Operation.not_bundles_of_sole h),
      (Operation.soleParameter_eq_some.mp h).2]
    simp [error?]
  | none =>
    have hb := Operation.soleParameter_eq_none.mp h
    rw [operationLines_of_bundles hb, failure_andThen, if_pos hb]
    exact hreturns op.requestName

/-- The number of a field is looked at before its type. -/
theorem failure_fieldLines (f : Field) :
    (fieldLines f).failure =
      (errorOf (fieldNumber f)).or ((errorOf f.type.signature).map .unsupportedType) := by
  unfold fieldLines
  refine failure_withResult (fun number => ?_) _
  refine (failure_withResult_of_none (fun _ => rfl) _).trans ?_
  rw [errorOf_mapError]

theorem failure_messageBlock_eq_findSome (t : TypeDef) :
    (messageBlock t).failure =
      t.fields.findSome? fun f => (fieldLines f).failure.map (.field t.name f.name) := by
  simp only [messageBlock, sequence_cons, sequence_nil, failure_andThen, failure_comment,
    failure_line, Option.none_or, failure_all, failure_mapFailure]
  exact Option.or_none

theorem failure_messageBlock (t : TypeDef) :
    (messageBlock t).failure = (messageObligations t).findSome? error? := by
  rw [failure_messageBlock_eq_findSome, messageObligations, findSome?_flatMap]
  refine congrArg (fun g => t.fields.findSome? g) (funext fun f => ?_)
  rw [failure_fieldLines, Option.map_or, Option.map_map]
  simp only [List.findSome?_cons, List.findSome?_nil, error?, Function.comp_def]
  cases errorOf (fieldNumber f) with
  | some cause => rfl
  | none => cases errorOf f.type.signature <;> rfl

theorem failure_unionBlock (u : UnionDef) :
    (unionBlock u).failure = (unionObligations u).findSome? error? := by
  have hblock : (unionBlock u).failure =
      u.types.zipIdx.findSome? ((error? ∘ memberType u.name) ∘ Prod.fst) := by
    simp only [unionBlock, sequence_cons, sequence_nil, failure_andThen, failure_comment,
      failure_line, Option.none_or, failure_all, failure_mapFailure]
    refine Option.or_none.trans ?_
    refine congrArg (fun g => u.types.zipIdx.findSome? g) (funext fun m => ?_)
    exact congrArg (Option.map _) (failure_withResult_of_none (fun _ => rfl) _)
  -- the numbers of the members play no part
  rw [hblock, ← List.findSome?_map, List.zipIdx_map_fst, unionObligations, List.findSome?_map]

theorem failure_services_eq_findSome_error (f : Filter) (roles : List Role) :
    (services f roles).failure =
      (f.accepted roles).findSome? fun x => (operationObligations x.1 x.2).findSome? error? := by
  rw [failure_services]
  exact congrArg (fun g => List.findSome? g _) (funext fun x => failure_operationLines x.1 x.2)

/-- A rendering fails with the error of the first obligation that is not met. -/
theorem failure_eq_findSome_error (o : Options) (s : Schema) :
    (generate o s).failure = (obligations o s).findSome? error? := by
  simp only [obligations, List.findSome?_append, findSome?_flatMap,
    ← failure_services_eq_findSome_error, ← failure_messageBlock, ← failure_unionBlock,
    Option.or_assoc]
  rw [failure_generate, failure_declarations, Option.or_assoc, Option.or_assoc]
  -- the queue is complete unless the services have failed, and then it does not matter
  cases h : (services o.filterOrAll s.roles).failure with
  | some e => rfl
  | none => rw [(makes_services ..).complete h]

/-! ## Schemas that can be rendered -/

/-- Everything that a rendering of the schema needs is there. -/
structure Renderable (o : Options) (s : Schema) : Prop where
  operations : ∀ r ∈ s.roles, o.filterOrAll.acceptsRole r = true → ∀ op ∈ r.operations,
    o.filterOrAll.acceptsOperation r op = true →
      (op.returnsValue = true → op.returns.Resolvable) ∧
        ∀ p, op.unary = true → op.parameters = [p] → p.type.Resolvable
  fields : ∀ t ∈ s.types, ∀ f ∈ t.fields, f.Numbered ∧ f.type.Resolvable
  parameters : ∀ r ∈ s.roles, o.filterOrAll.acceptsRole r = true → ∀ op ∈ r.operations,
    o.filterOrAll.acceptsOperation r op = true →
      ¬ (op.unary = true ∧ op.parameters.length = 1) →
        ∀ p ∈ op.parameters, p.Numbered ∧ p.type.Resolvable
  members : ∀ u ∈ s.unions, ∀ t ∈ u.types, t.Resolvable

theorem met_messageObligations {t : TypeDef} :
    (∀ x ∈ messageObligations t, x.Met) ↔ ∀ f ∈ t.fields, f.Numbered ∧ f.type.Resolvable := by
  simp only [messageObligations, List.forall_mem_flatMap, List.forall_mem_cons, Met]
  simp

theorem met_operationObligations {r : Role} {op : Operation} :
    (∀ x ∈ operationObligations r op, x.Met) ↔
      (op.returnsValue = true → op.returns.Resolvable) ∧
        ∀ p, op.unary = true → op.parameters = [p] → p.type.Resolvable := by
  have hreturns : (∀ x ∈ (if op.returnsValue then [rpcType r.name op.name op.returns] else []),
      x.Met) ↔ (op.returnsValue = true → op.returns.Resolvable) := by
    split <;> simp_all [Met]
  rw [operationObligations, List.forall_mem_append, hreturns, and_comm]
  refine and_congr_right fun _ => ?_
  -- only the type of a sole parameter stands in the line
  cases h : op.soleParameter with
  | some p =>
    obtain ⟨hu, hp⟩ := Operation.soleParameter_eq_some.mp h
    simp [Operation.not_bundles_of_sole h, hu, hp, Met]
  | none =>
    have hb := Operation.soleParameter_eq_none.mp h
    rw [if_pos hb]
    refine ⟨fun _ p hu hp => ?_, fun _ => by simp⟩
    exact absurd ⟨hu, by rw [hp]; rfl⟩ (Operation.bundles_iff.mp hb)

theorem met_obligations_iff {o : Options} {s : Schema} :
    (∀ x ∈ obligations o s, x.Met) ↔ Renderable o s := by
  simp only [obligations, List.forall_mem_append, List.forall_mem_flatMap, met_messageObligations,
    met_operationObligations, requestsOf, List.forall_mem_map, List.mem_filter, unionObligations]
  constructor
  · rintro ⟨⟨⟨hops, htypes⟩, hunions⟩, hrequests⟩
    refine ⟨?_, htypes, ?_, hunions⟩
    · intro r hr har op hop haop
      exact hops (r, op) (Filter.mem_accepted.mpr ⟨hr, har, hop, haop⟩)
    · intro r hr har op hop haop hb
      exact hrequests (r, op) ⟨Filter.mem_accepted.mpr ⟨hr, har, hop, haop⟩,
        Operation.bundles_iff.mpr hb⟩
  · intro h
    refine ⟨⟨⟨?_, h.fields⟩, h.members⟩, ?_⟩
    · intro x hx
      obtain ⟨hr, har, hop, haop⟩ := Filter.mem_accepted.mp hx
      exact h.operations x.1 hr har x.2 hop haop
    · rintro x ⟨hx, hb⟩
      obtain ⟨hr, har, hop, haop⟩ := Filter.mem_accepted.mp hx
      exact h.parameters x.1 hr har x.2 hop haop (Operation.bundles_iff.mp hb)

/-! ## The outcome of a rendering -/

theorem render_eq_error {o : Options} {s : Schema} {e : RenderError} :
    render o s = .error e ↔ (generate o s).failure = some e := by
  simp only [render]
  split <;> simp_all

theorem exists_render_eq_ok {o : Options} {s : Schema} :
    (∃ text, render o s = .ok text) ↔ (generate o s).failure = none := by
  simp only [render]
  split <;> simp_all

theorem exists_render_iff_renderable {o : Options} {s : Schema} :
    (∃ text, render o s = .ok text) ↔ Renderable o s := by
  rw [exists_render_eq_ok, failure_eq_findSome_error, List.findSome?_eq_none_iff,
    ← met_obligations_iff]
  simp only [error?_eq_none_iff]

/-- A rendering succeeds exactly if the schema is renderable. Otherwise it fails with the error of
the first obligation that is not met, which is about a number if the obligation is. -/
theorem render_outcome (o : Options) (s : Schema) :
    ((∃ text, render o s = .ok text) ↔ Renderable o s) ∧
      ∀ e, render o s = .error e ↔
        ∃ before x after, obligations o s = before ++ x :: after ∧ (∀ y ∈ before, y.Met) ∧
          ¬ x.Met ∧ x.error? = some e ∧ e.isMissingNumber = x.asksNumber := by
  refine ⟨exists_render_iff_renderable, fun e => ?_⟩
  rw [render_eq_error, failure_eq_findSome_error, List.findSome?_eq_some_iff]
  constructor
  · rintro ⟨before, x, after, hsplit, hx, hbefore⟩
    refine ⟨before, x, after, hsplit, fun y hy => error?_eq_none_iff.mp (hbefore y hy), ?_, hx,
      isMissingNumber_of_error? hx⟩
    intro hmet
    rw [error?_eq_none_iff.mpr hmet] at hx
    cases hx
  · rintro ⟨before, x, after, hsplit, hbefore, -, hx, -⟩
    exact ⟨before, x, after, hsplit, hx, fun y hy => error?_eq_none_iff.mpr (hbefore y hy)⟩

end Proto

end ProtoSchema
