import Mathlib.Data.List.Basic
import ProtoSchema.Proofs.Output
import ProtoSchema.Proto.Render

/-!
# The requests of a rendering

Which request messages a rendering makes. Only operations make requests, and only those that
bundle their parameters. A rendering makes the requests of the accepted operations that bundle, in
the order of roles and operations, all of them unless it fails (`makes_generate`). They are written
last, so a rendering fails as the first of its sections does, with the requests at the end
(`failure_declarations`, `failure_generate`).
-/

namespace ProtoSchema

/-- Whether the operation takes a message made of its parameters: all do but the unary ones with
exactly one parameter. -/
def Operation.bundles (op : Operation) : Bool := !(op.unary && op.parameters.length == 1)

theorem Operation.soleParameter_eq_some {op : Operation} {p : Field} :
    op.soleParameter = some p ↔ op.unary = true ∧ op.parameters = [p] := by
  unfold soleParameter
  split
  · rename_i q hq
    simp only [Option.ite_none_right_eq_some, Option.some.injEq, hq, List.cons.injEq, and_true]
  · rename_i h
    constructor
    · intro hn
      cases hn
    · intro hp
      exact absurd hp.2 (h p)

theorem Operation.bundles_iff {op : Operation} :
    op.bundles = true ↔ ¬ (op.unary = true ∧ op.parameters.length = 1) := by
  unfold bundles
  rw [Bool.not_eq_true', ← Bool.not_eq_true, Bool.and_eq_true, beq_iff_eq]

theorem Operation.soleParameter_eq_none {op : Operation} :
    op.soleParameter = none ↔ op.bundles = true := by
  rw [Option.eq_none_iff_forall_ne_some, bundles_iff]
  simp only [ne_eq, soleParameter_eq_some]
  constructor
  · rintro h ⟨hu, hl⟩
    obtain ⟨p, hp⟩ := List.length_eq_one_iff.mp hl
    exact h p ⟨hu, hp⟩
  · rintro h p ⟨hu, hp⟩
    exact h ⟨hu, by rw [hp]; rfl⟩

theorem Operation.not_bundles_of_sole {op : Operation} {p : Field} (h : op.soleParameter = some p) :
    ¬ op.bundles = true := by
  rw [← soleParameter_eq_none, h]
  simp

/-- The operations that a filter accepts in the roles that it accepts, each with its role. -/
def Filter.accepted (f : Filter) (roles : List Role) : List (Role × Operation) :=
  (roles.filter f.acceptsRole).flatMap fun r =>
    (r.operations.filter (f.acceptsOperation r)).map fun op => (r, op)

theorem Filter.mem_accepted {f : Filter} {roles : List Role} {x : Role × Operation} :
    x ∈ f.accepted roles ↔
      x.1 ∈ roles ∧ f.acceptsRole x.1 = true ∧ x.2 ∈ x.1.operations ∧
        f.acceptsOperation x.1 x.2 = true := by
  obtain ⟨r, op⟩ := x
  simp only [accepted, List.mem_flatMap, List.mem_filter, List.mem_map, Prod.mk.injEq]
  constructor
  · rintro ⟨r', ⟨hr, ha⟩, op', ⟨hop, hb⟩, rfl, rfl⟩
    exact ⟨hr, ha, hop, hb⟩
  · rintro ⟨hr, ha, hop, hb⟩
    exact ⟨r, ⟨hr, ha⟩, op, ⟨hop, hb⟩, rfl, rfl⟩

/-- The request messages of the operations that bundle their parameters. -/
def requestsOf (operations : List (Role × Operation)) : List TypeDef :=
  (operations.filter fun x => x.2.bundles).map fun x => x.2.request

namespace Proto

open Output

/-! ## Blocks that make no requests -/

@[simp] theorem requests_fieldLines (f : Field) : (fieldLines f).requests = [] := by
  refine requests_withResult_of_nil (fun number => ?_) _
  exact requests_withResult_of_nil (fun signature => rfl) _

@[simp] theorem requests_messageBlock (t : TypeDef) : (messageBlock t).requests = [] := by
  refine requests_all_of_nil fun a ha => ?_
  simp only [List.mem_cons, List.not_mem_nil, or_false] at ha
  rcases ha with rfl | rfl | rfl | rfl
  · rfl
  · rfl
  · exact requests_all_of_nil fun f _ => requests_fieldLines f
  · rfl

@[simp] theorem requests_enumBlock {ε : Type} (e : EnumDef) :
    (enumBlock e : Output ε).requests = [] := by
  refine requests_all_of_nil fun a ha => ?_
  simp only [List.mem_cons, List.not_mem_nil, or_false] at ha
  rcases ha with rfl | rfl | rfl | rfl
  · rfl
  · rfl
  · exact requests_all_of_nil fun v _ => rfl
  · rfl

@[simp] theorem requests_unionBlock (u : UnionDef) : (unionBlock u).requests = [] := by
  refine requests_all_of_nil fun a ha => ?_
  simp only [List.mem_cons, List.not_mem_nil, or_false] at ha
  rcases ha with rfl | rfl | rfl | rfl | rfl | rfl
  · rfl
  · rfl
  · rfl
  · refine requests_all_of_nil fun m _ => ?_
    rw [requests_mapFailure]
    exact requests_withResult_of_nil (fun signature => rfl) _
  · rfl
  · rfl

/-! ## Operations and services -/

theorem operationLines_of_sole {op : Operation} {p : Field} (h : op.soleParameter = some p) :
    operationLines op = withResult p.type.signature (rpcLine op) := by
  unfold operationLines requestType
  rw [h]
  cases hs : p.type.signature <;> simp [withResult, Except.map, hs]

theorem operationLines_of_bundles {op : Operation} (h : op.bundles = true) :
    operationLines op =
      ((request op.request).andThen (event (.madeRequest op.requestName))).andThen
        (rpcLine op op.requestName) := by
  unfold operationLines requestType
  rw [Operation.soleParameter_eq_none.mpr h]
  rfl

@[simp] theorem requests_rpcLine (op : Operation) (request : String) :
    (rpcLine op request).requests = [] :=
  requests_withResult_of_nil (fun _ => rfl) _

/-- An operation that bundles makes its request before anything can fail. -/
theorem requests_operationLines (op : Operation) :
    (operationLines op).requests = if op.bundles then [op.request] else [] := by
  cases h : op.soleParameter with
  | some p =>
    rw [operationLines_of_sole h, if_neg (Operation.not_bundles_of_sole h)]
    exact requests_withResult_of_nil (requests_rpcLine op) _
  | none =>
    have hb := Operation.soleParameter_eq_none.mp h
    rw [operationLines_of_bundles hb, if_pos hb,
      requests_andThen_of_nil (requests_rpcLine op op.requestName)]
    rfl

theorem failure_serviceBlock (f : Filter) (r : Role) :
    (serviceBlock f r).failure =
      (r.operations.filter (f.acceptsOperation r)).findSome? fun op =>
        (operationLines op).failure.map (.operation r.name op.name) := by
  simp only [serviceBlock, sequence_cons, sequence_nil, failure_andThen, failure_comment,
    failure_line, Option.none_or, failure_all_skip, failure_mapFailure]
  exact Option.or_none

theorem requestsOf_of_role (r : Role) (operations : List Operation) :
    requestsOf (operations.map fun op => (r, op)) =
      operations.flatMap fun op => (operationLines op).requests := by
  simp only [requests_operationLines, requestsOf, List.filter_map, List.map_map]
  induction operations with
  | nil => rfl
  | cons op ops ih =>
    rw [List.flatMap_cons, ← ih]
    by_cases hb : op.bundles = true <;> simp [hb]

theorem makes_serviceBlock (f : Filter) (r : Role) :
    (serviceBlock f r).Makes
      (requestsOf ((r.operations.filter (f.acceptsOperation r)).map fun op => (r, op))) := by
  have hops := Makes.all_skip (p := f.acceptsOperation r) (l := r.operations)
    (fun op _ => (Makes.of_eq (a := operationLines op) rfl).mapFailure
      (RenderError.operation r.name op.name))
    fun op => .skippedOperation r.name op.name
  rw [requestsOf_of_role, ← List.append_nil (List.flatMap _ _)]
  simp only [serviceBlock, sequence_cons, sequence_nil]
  -- nothing is requested before the operations or after them
  refine Makes.andThen (l := []) (.of_eq rfl) (Makes.andThen (l := []) (.of_eq rfl) ?_)
  exact hops.andThen (.of_eq rfl)

/-! ## Schemas -/

theorem failure_services (f : Filter) (roles : List Role) :
    (services f roles).failure =
      (f.accepted roles).findSome? fun x =>
        (operationLines x.2).failure.map (.operation x.1.name x.2.name) := by
  unfold services Filter.accepted
  rw [failure_all_skip, findSome?_flatMap]
  refine congrArg (fun g => List.findSome? g _) (funext fun r => ?_)
  rw [failure_serviceBlock, List.findSome?_map]
  rfl

/-- Services make the requests of exactly the accepted operations that bundle, in order. -/
theorem makes_services (f : Filter) (roles : List Role) :
    (services f roles).Makes (requestsOf (f.accepted roles)) := by
  rw [requestsOf, Filter.accepted, List.filter_flatMap, List.map_flatMap]
  exact .all_skip (fun r _ => makes_serviceBlock f r) _

theorem failure_enumBlock {ε : Type} (e : EnumDef) : (enumBlock e : Output ε).failure = none := by
  simp only [enumBlock, sequence_cons, sequence_nil, andThen_empty, failure_andThen,
    failure_comment, failure_line, Option.none_or, Option.or_eq_none_iff]
  refine ⟨?_, rfl⟩
  rw [failure_all, List.findSome?_eq_none_iff]
  exact fun v _ => rfl

/-- The sections of a schema fail in their order, and enums do not fail at all. -/
theorem failure_declarations (o : Options) (s : Schema) :
    (declarations o s).failure =
      (services o.filterOrAll s.roles).failure.or
        ((s.types.findSome? fun t => (messageBlock t).failure).or
          (s.unions.findSome? fun u => (unionBlock u).failure)) := by
  have he : (all enumBlock s.enums : Output RenderError).failure = none := by
    rw [failure_all, List.findSome?_eq_none_iff]
    exact fun e _ => failure_enumBlock e
  simp only [declarations, sequence_cons, sequence_nil, andThen_empty, failure_andThen, he,
    Option.none_or, failure_all messageBlock, failure_all unionBlock]
  rfl

theorem requests_declarations (o : Options) (s : Schema) :
    (declarations o s).requests = (services o.filterOrAll s.roles).requests := by
  simp only [declarations, sequence_cons, sequence_nil, andThen_empty]
  rw [requests_andThen (show (header o s : Output RenderError).failure = none from rfl)]
  refine requests_andThen_of_nil ?_ _
  rw [requests_andThen_of_nil, requests_all_of_nil fun t _ => requests_messageBlock t]
  rw [requests_andThen_of_nil, requests_all_of_nil fun e _ => requests_enumBlock e]
  exact requests_all_of_nil fun u _ => requests_unionBlock u

theorem failure_generate (o : Options) (s : Schema) :
    (generate o s).failure =
      (declarations o s).failure.or
        ((services o.filterOrAll s.roles).requests.findSome? fun t =>
          (messageBlock t).failure) := by
  unfold generate
  rw [failure_andThen, failure_all, requests_declarations]

theorem failure_services_of_generate {o : Options} {s : Schema}
    (h : (generate o s).failure = none) : (services o.filterOrAll s.roles).failure = none := by
  rw [failure_generate, Option.or_eq_none_iff, failure_declarations, Option.or_eq_none_iff] at h
  exact h.1.1

/-- Only services make requests. -/
theorem requests_generate (o : Options) (s : Schema) :
    (generate o s).requests = (services o.filterOrAll s.roles).requests := by
  unfold generate
  rw [requests_andThen_of_nil (requests_all_of_nil fun t _ => requests_messageBlock t),
    requests_declarations]

theorem makes_generate (o : Options) (s : Schema) :
    (generate o s).Makes (requestsOf (o.filterOrAll.accepted s.roles)) := by
  have hservices := makes_services o.filterOrAll s.roles
  constructor
  · rw [requests_generate]
    exact hservices.initial
  · intro hok
    rw [requests_generate]
    exact hservices.complete (failure_services_of_generate hok)

end Proto

end ProtoSchema
