import ProtoSchema.Proofs.Loading

/-!
# What loading asks for

A schema as written must meet conditions: names must be there, texts for types must be readable, a
unary operation must have one parameter, values of enums must have a number. `Schema.Complete` says
so for every part. `Schema.checks` lists the conditions in the order in which a schema is gone
through, each with the places that lead to it from the outside in.

Building fails with the error of the first condition that is not met, at its places
(`Schema.errorOf_build`). So it succeeds exactly if the schema is complete, and `Builds` says with
what (`Schema.build_exact`).
-/

namespace ProtoSchema

namespace Source

/-! ## Conditions -/

/-- The text is one of a type. -/
def Readable (text : String) : Prop := ∃ t, TypeExpr.parse text = .ok t

/-- Something that is asked of a schema as written. -/
inductive Condition where
  | namespaced (name : String)
  | named (name : String)
  | typed (text : String)
  | arity (unary : Bool) (count : Nat)
  | indexed (index : Option Int)

namespace Condition

def Met : Condition → Prop
  | namespaced name => name ≠ ""
  | named name => name ≠ ""
  | typed text => Readable text
  | arity unary count => unary = true → count = 1
  | indexed index => index ≠ none

/-- The error for a condition that is not met. -/
def error? : Condition → Option BuildError
  | namespaced name => if name = "" then some .missingNamespace else none
  | named name => if name = "" then some .missingName else none
  | typed text => (errorOf (TypeExpr.parse text)).map .badType
  | arity unary count => if unary = true ∧ count ≠ 1 then some (.unaryArity count) else none
  | indexed index => if index = none then some .missingIndex else none

theorem error?_eq_none_iff {c : Condition} : c.error? = none ↔ c.Met := by
  cases c with
  | namespaced name => simp [error?, Met]
  | named name => simp [error?, Met]
  | typed text => rw [error?, Option.map_eq_none_iff, errorOf_eq_none, Met, Readable]
  | arity unary count => simp [error?, Met]
  | indexed index => simp [error?, Met]

end Condition

/-- A condition with the places that lead to it, the outermost first. -/
structure Check where
  places : List String := []
  condition : Condition

namespace Check

def Met (c : Check) : Prop := c.condition.Met

/-- The same check from outside a place. -/
def inside (place : String) (c : Check) : Check := { c with places := place :: c.places }

/-- The error of a check that fails: that of its condition, at its places. -/
def error? (c : Check) : Option BuildError :=
  c.condition.error?.map fun fault => c.places.foldr .inside fault

theorem error?_eq_none_iff {c : Check} : c.error? = none ↔ c.Met := by
  rw [error?, Option.map_eq_none_iff, Condition.error?_eq_none_iff, Met]

theorem error?_inside (place : String) (c : Check) :
    (c.inside place).error? = c.error?.map (.inside place) := by
  rw [error?, error?, Option.map_map]
  rfl

end Check

/-! ## Parts and their checks -/

/-- The checks of the items of a list with their positions, which start at `index`. -/
def eachAt {α : Type} (checks : α → Nat → List Check) (index : Nat) (as : List α) : List Check :=
  (as.zipIdx index).flatMap fun x => checks x.1 x.2

/-- The checks of an item, as one of a list. -/
def asItem {α : Type} (list : String) (checks : α → List Check) (a : α) (index : Nat) :
    List Check :=
  (checks a).map (Check.inside (BuildError.item list index))

/-- The checks of a field of the kind `kind` at a position of a list. -/
def Field.checks (list kind : String) (f : Field) (index : Nat) : List Check :=
  [{ places := [BuildError.item list index], condition := .named f.name },
    { places := [kind ++ " " ++ f.name], condition := .typed f.type }]

def returnsChecks (text : String) : List Check :=
  if text = "" then [] else [{ places := ["returns"], condition := .typed text }]

/-- The checks of an operation: its name, its parameters, how many they are, its result. -/
def Operation.checks (o : Operation) : List Check :=
  { condition := .named o.name } ::
    (eachAt (Field.checks "parameters" "parameter") 0 o.parameters ++
      { condition := .arity o.unary o.parameters.length } :: returnsChecks o.returns).map
        (Check.inside ("operation " ++ o.name))

def Role.checks (r : Role) : List Check :=
  { condition := .named r.name } ::
    (eachAt (asItem "operations" Operation.checks) 0 r.operations).map
      (Check.inside ("role " ++ r.name))

def TypeDef.checks (t : TypeDef) : List Check :=
  { condition := .named t.name } ::
    (eachAt (Field.checks "fields" "field") 0 t.fields).map (Check.inside ("type " ++ t.name))

/-- The checks of a value at a position of an enum. -/
def EnumValue.checks (v : EnumValue) (index : Nat) : List Check :=
  [{ places := [BuildError.item "values" index], condition := .named v.name },
    { places := ["value " ++ v.name], condition := .indexed v.index }]

def EnumDef.checks (e : EnumDef) : List Check :=
  { condition := .named e.name } ::
    (eachAt EnumValue.checks 0 e.values).map (Check.inside ("enum " ++ e.name))

def UnionDef.checks (u : UnionDef) : List Check :=
  { condition := .named u.name } ::
    (u.types.map fun text => { condition := .typed text : Check }).map
      (Check.inside ("union " ++ u.name))

/-- All checks of a schema: its name, then its roles, types, enums and unions. -/
def Schema.checks (s : Schema) : List Check :=
  { condition := .namespaced s.space.name } ::
    (eachAt (asItem "roles" Role.checks) 0 s.roles ++
      eachAt (asItem "types" TypeDef.checks) 0 s.types ++
      eachAt (asItem "enums" EnumDef.checks) 0 s.enums ++
      eachAt (asItem "unions" UnionDef.checks) 0 s.unions)

/-! ## The first check that fails -/

/-- The error of the first check that fails. -/
def firstError (checks : List Check) : Option BuildError := checks.findSome? Check.error?

@[simp] theorem firstError_nil : firstError [] = none := rfl

theorem firstError_cons (c : Check) (cs : List Check) :
    firstError (c :: cs) = c.error?.or (firstError cs) := by
  rw [firstError, List.findSome?_cons]
  cases c.error? <;> rfl

theorem firstError_append (cs ds : List Check) :
    firstError (cs ++ ds) = (firstError cs).or (firstError ds) := List.findSome?_append

theorem firstError_inside (place : String) (cs : List Check) :
    firstError (cs.map (Check.inside place)) = (firstError cs).map (.inside place) := by
  induction cs with
  | nil => rfl
  | cons c cs ih =>
    rw [List.map_cons, firstError_cons, firstError_cons, ih, Check.error?_inside, Option.map_or]

theorem errorOf_within {α : Type} (place : String) (r : Except BuildError α) :
    errorOf (within place r) = (errorOf r).map (.inside place) := by
  rw [within, errorOf_mapError]

/-- A check for a name is one for a text that is not empty. -/
theorem error?_named (places : List String) (name : String) :
    Check.error? { places := places, condition := .named name } =
      if name.isEmpty = true then some (places.foldr .inside .missingName) else none := by
  simp only [Check.error?, Condition.error?, String.isEmpty_iff]
  split <;> rfl

/-- A list that is built item by item fails with the first error of an item, if each step fails
with that of its item or else as the rest does. -/
theorem errorOf_eq_eachAt {α β : Type} {build : Nat → List α → Except BuildError β}
    {checks : α → Nat → List Check} (hnil : ∀ index, errorOf (build index []) = none)
    (hcons : ∀ index a as, errorOf (build index (a :: as)) =
      (firstError (checks a index)).or (errorOf (build (index + 1) as)))
    (index : Nat) (as : List α) :
    errorOf (build index as) = firstError (eachAt checks index as) := by
  induction as generalizing index with
  | nil => exact hnil index
  | cons a as ih =>
    rw [hcons, ih, eachAt, eachAt, List.zipIdx_cons, List.flatMap_cons, firstError_append]

theorem errorOf_buildAll {α β : Type} {build : α → Except BuildError β}
    {checks : α → List Check} (h : ∀ a, errorOf (build a) = firstError (checks a))
    (list : String) (index : Nat) (as : List α) :
    errorOf (buildAll list build index as) = firstError (eachAt (asItem list checks) index as) := by
  refine errorOf_eq_eachAt (fun _ => rfl) (fun index a as => ?_) index as
  rw [buildAll, errorOf_bind (fun b => errorOf_bind_pure _ _), errorOf_within, h, asItem,
    firstError_inside]

theorem errorOf_buildType (text : String) :
    errorOf (buildType text) = (Condition.typed text).error? := by
  rw [buildType, errorOf_mapError, Condition.error?]

/-- A field is asked for its name before its type. -/
theorem errorOf_buildFields (list kind : String) (index : Nat) (fs : List Field) :
    errorOf (buildFields list kind index fs) =
      firstError (eachAt (Field.checks list kind) index fs) := by
  refine errorOf_eq_eachAt (fun _ => rfl) (fun index f fs => ?_) index fs
  rw [buildFields, errorOf_ite_throw, errorOf_bind (fun type => errorOf_bind_pure _ _),
    errorOf_within, errorOf_buildType, Field.checks, firstError_cons, firstError_cons,
    firstError_nil, Option.or_none, Option.or_assoc, error?_named]
  rfl

theorem errorOf_buildValues (index : Nat) (vs : List EnumValue) :
    errorOf (buildValues index vs) = firstError (eachAt EnumValue.checks index vs) := by
  refine errorOf_eq_eachAt (fun _ => rfl) (fun index v vs => ?_) index vs
  rw [buildValues, errorOf_ite_throw, EnumValue.checks, firstError_cons, firstError_cons,
    firstError_nil, Option.or_none, Option.or_assoc, error?_named]
  cases hindex : v.index with
  | none => rfl
  | some n => simp only [errorOf_bind_pure, Check.error?, Condition.error?]; rfl

theorem errorOf_buildReturns (text : String) :
    errorOf (buildReturns text) = firstError (returnsChecks text) := by
  unfold buildReturns returnsChecks
  simp only [String.isEmpty_iff]
  split
  · rfl
  · rw [errorOf_within, errorOf_buildType, firstError_cons, firstError_nil, Option.or_none]
    rfl

theorem Operation.errorOf_build (o : Operation) : errorOf o.build = firstError o.checks := by
  rw [Operation.build, errorOf_ite_error, errorOf_within, Operation.checks, firstError_cons,
    firstError_inside, firstError_append, error?_named, ← errorOf_buildFields]
  refine congrArg (fun e => Option.or _ (Option.map _ e)) (errorOf_bind_of_ok fun parameters h => ?_)
  -- the number of parameters is taken from what was built, and that is as long as what was written
  have hlength : o.parameters.length = parameters.length := (buildFields_eq_ok.mp h).length_eq
  rw [errorOf_ite_throw, errorOf_bind_pure, errorOf_buildReturns, firstError_cons, hlength]
  simp only [Check.error?, Condition.error?, Bool.and_eq_true, decide_eq_true_eq, List.foldr_nil,
    Option.map_id']

theorem Role.errorOf_build (r : Role) : errorOf r.build = firstError r.checks := by
  rw [Role.build, errorOf_ite_error, errorOf_within, errorOf_bind_pure,
    errorOf_buildAll Operation.errorOf_build, Role.checks, firstError_cons, firstError_inside,
    error?_named]
  rfl

theorem TypeDef.errorOf_build (t : TypeDef) : errorOf t.build = firstError t.checks := by
  rw [TypeDef.build, errorOf_ite_error, errorOf_within, errorOf_bind_pure, errorOf_buildFields,
    TypeDef.checks, firstError_cons, firstError_inside, error?_named]
  rfl

theorem EnumDef.errorOf_build (e : EnumDef) : errorOf e.build = firstError e.checks := by
  rw [EnumDef.build, errorOf_ite_error, errorOf_within, errorOf_bind_pure, errorOf_buildValues,
    EnumDef.checks, firstError_cons, firstError_inside, error?_named]
  rfl

theorem UnionDef.errorOf_build (u : UnionDef) : errorOf u.build = firstError u.checks := by
  have htypes : errorOf (u.types.mapM buildType) =
      firstError (u.types.map fun text => { condition := .typed text }) := by
    rw [errorOf_mapM, firstError, List.findSome?_map]
    refine congrArg (fun f => u.types.findSome? f) (funext fun text => ?_)
    rw [errorOf_buildType, Function.comp_apply, Check.error?]
    exact Option.map_id'.symm
  rw [UnionDef.build, errorOf_ite_error, errorOf_within, errorOf_bind_pure, htypes,
    UnionDef.checks, firstError_cons, firstError_inside, error?_named]
  rfl

/-- Building fails as the first check of the schema. -/
theorem Schema.errorOf_build (s : Schema) : errorOf s.build = firstError s.checks := by
  have hname : Check.error? { condition := .namespaced s.space.name } =
      if s.space.name.isEmpty = true then some .missingNamespace else none := by
    simp only [Check.error?, Condition.error?, String.isEmpty_iff]
    exact Option.map_id'
  rw [Schema.build, errorOf_ite_throw, errorOf_bind fun _ => errorOf_bind (fun _ =>
      errorOf_bind (fun _ => errorOf_bind_pure _ _) _) _]
  rw [errorOf_buildAll Role.errorOf_build, errorOf_buildAll TypeDef.errorOf_build,
    errorOf_buildAll EnumDef.errorOf_build, errorOf_buildAll UnionDef.errorOf_build, Schema.checks,
    firstError_cons, hname]
  simp only [firstError_append, Option.or_assoc]

/-! ## Complete schemas -/

structure Field.Complete (f : Field) : Prop where
  named : f.name ≠ ""
  typed : Readable f.type

structure Operation.Complete (o : Operation) : Prop where
  named : o.name ≠ ""
  parameters : ∀ p ∈ o.parameters, p.Complete
  arity : o.unary = true → o.parameters.length = 1
  returns : o.returns ≠ "" → Readable o.returns

structure Role.Complete (r : Role) : Prop where
  named : r.name ≠ ""
  operations : ∀ o ∈ r.operations, o.Complete

structure TypeDef.Complete (t : TypeDef) : Prop where
  named : t.name ≠ ""
  fields : ∀ f ∈ t.fields, f.Complete

structure EnumValue.Complete (v : EnumValue) : Prop where
  named : v.name ≠ ""
  indexed : v.index ≠ none

structure EnumDef.Complete (e : EnumDef) : Prop where
  named : e.name ≠ ""
  values : ∀ v ∈ e.values, v.Complete

structure UnionDef.Complete (u : UnionDef) : Prop where
  named : u.name ≠ ""
  types : ∀ text ∈ u.types, Readable text

/-- Every part has a name, every text for a type can be read, unary operations have exactly one
parameter, and all values of enums have a number. -/
structure Schema.Complete (s : Schema) : Prop where
  named : s.space.name ≠ ""
  roles : ∀ r ∈ s.roles, r.Complete
  types : ∀ t ∈ s.types, t.Complete
  enums : ∀ e ∈ s.enums, e.Complete
  unions : ∀ u ∈ s.unions, u.Complete

/-- The checks are passed. -/
def Passed (checks : List Check) : Prop := ∀ c ∈ checks, c.Met

theorem passed_cons {c : Check} {cs : List Check} :
    Passed (c :: cs) ↔ c.Met ∧ Passed cs := List.forall_mem_cons

theorem passed_append {cs ds : List Check} :
    Passed (cs ++ ds) ↔ Passed cs ∧ Passed ds := List.forall_mem_append

theorem passed_inside {place : String} {cs : List Check} :
    Passed (cs.map (Check.inside place)) ↔ Passed cs := List.forall_mem_map

/-- Positions play no part in whether checks are passed. -/
theorem passed_eachAt {α : Type} {checks : α → Nat → List Check} {P : α → Prop}
    (h : ∀ a index, Passed (checks a index) ↔ P a) (index : Nat) (as : List α) :
    Passed (eachAt checks index as) ↔ ∀ a ∈ as, P a := by
  induction as generalizing index with
  | nil => simp [eachAt, Passed]
  | cons a as ih =>
    rw [eachAt, List.zipIdx_cons, List.flatMap_cons, passed_append, h, List.forall_mem_cons,
      ← ih (index + 1), eachAt]

theorem passed_items {α : Type} {checks : α → List Check} {P : α → Prop}
    (h : ∀ a, Passed (checks a) ↔ P a) (list : String) (as : List α) :
    Passed (eachAt (asItem list checks) 0 as) ↔ ∀ a ∈ as, P a := by
  apply passed_eachAt
  intro a index
  rw [asItem, passed_inside, h]

theorem Field.passed_checks (list kind : String) (f : Field) (index : Nat) :
    Passed (f.checks list kind index) ↔ f.Complete := by
  rw [Field.checks, passed_cons, passed_cons]
  constructor
  · intro ⟨named, typed, _⟩
    exact ⟨named, typed⟩
  · intro h
    exact ⟨h.named, h.typed, by simp [Passed]⟩

theorem passed_returnsChecks {text : String} :
    Passed (returnsChecks text) ↔ (text ≠ "" → Readable text) := by
  unfold returnsChecks
  split
  · simp [Passed, *]
  · simp [Passed, Check.Met, Condition.Met, *]

theorem Operation.passed_checks (o : Operation) : Passed o.checks ↔ o.Complete := by
  rw [Operation.checks, passed_cons, passed_inside, passed_append, passed_cons,
    passed_eachAt (Field.passed_checks _ _), passed_returnsChecks]
  constructor
  · intro ⟨named, parameters, arity, returns⟩
    exact ⟨named, parameters, arity, returns⟩
  · intro h
    exact ⟨h.named, h.parameters, h.arity, h.returns⟩

theorem Role.passed_checks (r : Role) : Passed r.checks ↔ r.Complete := by
  rw [Role.checks, passed_cons, passed_inside, passed_items Operation.passed_checks]
  exact ⟨fun h => ⟨h.1, h.2⟩, fun h => ⟨h.named, h.operations⟩⟩

theorem TypeDef.passed_checks (t : TypeDef) : Passed t.checks ↔ t.Complete := by
  rw [TypeDef.checks, passed_cons, passed_inside, passed_eachAt (Field.passed_checks _ _)]
  exact ⟨fun h => ⟨h.1, h.2⟩, fun h => ⟨h.named, h.fields⟩⟩

theorem EnumValue.passed_checks (v : EnumValue) (index : Nat) :
    Passed (v.checks index) ↔ v.Complete := by
  rw [EnumValue.checks, passed_cons, passed_cons]
  constructor
  · intro ⟨named, indexed, _⟩
    exact ⟨named, indexed⟩
  · intro h
    exact ⟨h.named, h.indexed, by simp [Passed]⟩

theorem EnumDef.passed_checks (e : EnumDef) : Passed e.checks ↔ e.Complete := by
  rw [EnumDef.checks, passed_cons, passed_inside, passed_eachAt EnumValue.passed_checks]
  exact ⟨fun h => ⟨h.1, h.2⟩, fun h => ⟨h.named, h.values⟩⟩

theorem UnionDef.passed_checks (u : UnionDef) : Passed u.checks ↔ u.Complete := by
  rw [UnionDef.checks, passed_cons, passed_inside, Passed, List.forall_mem_map]
  exact ⟨fun h => ⟨h.1, h.2⟩, fun h => ⟨h.named, h.types⟩⟩

theorem Schema.passed_checks (s : Schema) : Passed s.checks ↔ s.Complete := by
  rw [Schema.checks, passed_cons, passed_append, passed_append, passed_append,
    passed_items Role.passed_checks, passed_items TypeDef.passed_checks,
    passed_items EnumDef.passed_checks, passed_items UnionDef.passed_checks]
  constructor
  · intro ⟨named, ⟨⟨roles, types⟩, enums⟩, unions⟩
    exact ⟨named, roles, types, enums, unions⟩
  · intro h
    exact ⟨h.named, ⟨⟨h.roles, h.types⟩, h.enums⟩, h.unions⟩

/-! ## Building -/

theorem firstError_eq_none {cs : List Check} : firstError cs = none ↔ Passed cs := by
  rw [firstError, List.findSome?_eq_none_iff]
  simp only [Check.error?_eq_none_iff]
  rfl

/-- The first check that fails is one before which all are passed. -/
theorem firstError_eq_some {cs : List Check} {e : BuildError} :
    firstError cs = some e ↔ ∃ before c after, cs = before ++ c :: after ∧ Passed before ∧
      ¬ c.Met ∧ c.error? = some e := by
  rw [firstError, List.findSome?_eq_some_iff]
  simp only [Check.error?_eq_none_iff]
  constructor
  · intro ⟨before, c, after, hsplit, he, hbefore⟩
    refine ⟨before, c, after, hsplit, hbefore, ?_, he⟩
    rw [← Check.error?_eq_none_iff, he]
    simp
  · intro ⟨before, c, after, hsplit, hbefore, _, he⟩
    exact ⟨before, c, after, hsplit, he, hbefore⟩

theorem BuildsReturns.eq_absent_iff {text : String} {t : TypeExpr} (h : BuildsReturns text t) :
    t = .absent ↔ text = "" := by
  unfold BuildsReturns at h
  split at h
  · rename_i hempty
    exact ⟨fun _ => hempty, fun _ => h⟩
  · rename_i hne
    -- no text is read as no type
    refine ⟨fun habsent => ?_, fun hempty => absurd hempty hne⟩
    have hresolvable := h.resolvable
    rw [habsent] at hresolvable
    cases hresolvable

theorem message_inside (place : String) (e : BuildError) :
    (BuildError.inside place e).message = place ++ ": " ++ e.message := rfl

/-- The wording of an error at places names them from the outside in. -/
theorem message_places (places : List String) (fault : BuildError) :
    (places.foldr BuildError.inside fault).message =
      String.join (places.map (· ++ ": ")) ++ fault.message := by
  induction places with
  | nil => rw [List.foldr_nil, List.map_nil, String.join_nil, String.empty_append]
  | cons place places ih =>
    rw [List.foldr_cons, message_inside, ih, List.map_cons, String.join_cons, String.append_assoc,
      String.append_assoc, String.append_assoc]

/-- A schema as written can be built exactly if it is complete. What is built has the parts as they
were written, with every text for a type replaced by what it is read as; only an empty text is no
type. Otherwise the error is that of the first check that fails, at its places, and it is reported
as that of an invalid document. -/
theorem Schema.build_exact (source : Schema) :
    ((∃ s, source.build = .ok s) ↔ source.Complete) ∧
    (∀ s, source.build = .ok s → source.Builds s ∧
      List.Forall₂ (fun r q => List.Forall₂ (fun o p => p.returns = .absent ↔ o.returns = "")
        r.operations q.operations) source.roles s.roles) ∧
    (∀ e, source.build = .error e ↔ ∃ before c after fault,
      source.checks = before ++ c :: after ∧ (∀ b ∈ before, b.Met) ∧ ¬ c.Met ∧
        c.condition.error? = some fault ∧ e = c.places.foldr .inside fault ∧
        e.message = String.join (c.places.map (· ++ ": ")) ++ fault.message) ∧
    ∀ read text, read text.toList = .ok source →
      (∀ s, source.build = .ok s → Schema.loadWith read text = .ok s) ∧
      ∀ e, source.build = .error e → Schema.loadWith read text = .error (.invalid e) ∧
        (LoadError.invalid e).message = "invalid document: " ++ e.message := by
  refine ⟨?_, ?_, ?_, ?_⟩
  · rw [← errorOf_eq_none, Schema.errorOf_build, firstError_eq_none, Schema.passed_checks]
  · intro s hs
    have hbuilds := (Schema.build_eq_ok source s).mp hs
    refine ⟨hbuilds, hbuilds.roles.imp fun r q hrole => ?_⟩
    exact hrole.operations.imp fun o p hoperation => hoperation.returns.eq_absent_iff
  · intro e
    rw [← errorOf_eq_some, Schema.errorOf_build, firstError_eq_some]
    constructor
    · intro ⟨before, c, after, hsplit, hbefore, hunmet, he⟩
      obtain ⟨fault, hfault, rfl⟩ := Option.map_eq_some_iff.mp he
      exact ⟨before, c, after, fault, hsplit, hbefore, hunmet, hfault, rfl, message_places _ _⟩
    · intro ⟨before, c, after, fault, hsplit, hbefore, hunmet, hfault, he, _⟩
      refine ⟨before, c, after, hsplit, hbefore, hunmet, ?_⟩
      rw [Check.error?, hfault, he, Option.map_some]
  · intro read text hread
    have hload : Schema.loadWith read text = source.build.mapError .invalid := by
      rw [Schema.loadWith, hread]
      rfl
    rw [hload]
    refine ⟨fun s hs => by rw [hs]; rfl, fun e he => ⟨by rw [he]; rfl, rfl⟩⟩

/-- Three faults, of which that in the second role comes first: its operation is unary and has no
parameter, and its result is no type. The last is a type without a name. -/
theorem Schema.build_exact_second_role :
    let f : Operation := { name := "f", unary := true, returns := "[" }
    let source : Schema :=
      { space := { name := "a" }, types := [{}],
        roles := [{ name := "A" }, { name := "B", operations := [f] }] }
    let e : BuildError := .inside "roles[1]" (.inside "role B" (.inside "operations[0]"
      (.inside "operation f" (.unaryArity 0))))
    ¬ source.Complete ∧ source.build = .error e ∧
      Schema.loadWith (fun _ => .ok source) "" = .error (.invalid e) ∧
      (LoadError.invalid e).message = "invalid document: roles[1]: role B: operations[0]: " ++
        "operation f: unary operations take exactly one parameter, got 0" := by
  intro f source e
  obtain ⟨hcomplete, -, -, hload⟩ := Schema.build_exact source
  have hbuild : source.build = .error e := by rfl
  obtain ⟨hfails, -⟩ := (hload (fun _ => .ok source) "" rfl).2 e hbuild
  refine ⟨?_, hbuild, hfails, by decide +kernel⟩
  intro h
  obtain ⟨s, hs⟩ := hcomplete.mpr h
  rw [hbuild] at hs
  cases hs

end Source

end ProtoSchema
