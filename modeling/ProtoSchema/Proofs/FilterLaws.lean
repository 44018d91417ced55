import ProtoSchema.Proofs.Filtering
import ProtoSchema.Proofs.Pruning
import ProtoSchema.Proofs.Records

/-!
# Laws of filters

Several filters together accept what each of them accepts (`acceptsRole_allOf`). So `allOf` is a
conjunction: the order, the repetition and the nesting of its members play no part, and `all` is its
unit. Filters that decide alike are the same to pruning (`Agrees.prune_eq`), and pruning by one
filter after another is pruning by all of them at once (`foldl_prune`). There the roles about which
the later filters are asked have lost operations already, which no filter looks at.

The filter of a command line is a case of this (`exists_options_accepts`).
-/

namespace ProtoSchema

namespace Filter

/-- The filters decide alike about every role and operation. -/
structure Agrees (f g : Filter) : Prop where
  role : ∀ r, f.acceptsRole r = g.acceptsRole r
  operation : ∀ r op, f.acceptsOperation r op = g.acceptsOperation r op

/-! ## Several filters -/

theorem acceptsRole_allOf (fs : List Filter) (r : Role) :
    (allOf fs).acceptsRole r = fs.all fun f => f.acceptsRole r := by
  rw [acceptsRole]
  induction fs with
  | nil => rw [allAcceptRole, List.all_nil]
  | cons f fs ih => rw [allAcceptRole, List.all_cons, ih]

theorem acceptsOperation_allOf (fs : List Filter) (r : Role) (op : Operation) :
    (allOf fs).acceptsOperation r op = fs.all fun f => f.acceptsOperation r op := by
  rw [acceptsOperation]
  induction fs with
  | nil => rw [allAcceptOperation, List.all_nil]
  | cons f fs ih => rw [allAcceptOperation, List.all_cons, ih]

/-- More filters accept less. -/
theorem acceptsRole_of_subset {fs gs : List Filter} (h : fs ⊆ gs) {r : Role}
    (hgs : (allOf gs).acceptsRole r = true) : (allOf fs).acceptsRole r = true := by
  rw [acceptsRole_allOf, List.all_eq_true] at hgs ⊢
  intro f hf
  exact hgs f (h hf)

theorem acceptsOperation_of_subset {fs gs : List Filter} (h : fs ⊆ gs) {r : Role} {op : Operation}
    (hgs : (allOf gs).acceptsOperation r op = true) :
    (allOf fs).acceptsOperation r op = true := by
  rw [acceptsOperation_allOf, List.all_eq_true] at hgs ⊢
  intro f hf
  exact hgs f (h hf)

/-- Which filters there are decides, not in which order or how often. -/
theorem agrees_allOf_of_mem_iff {fs gs : List Filter} (h : ∀ f, f ∈ gs ↔ f ∈ fs) :
    (allOf gs).Agrees (allOf fs) := by
  have hfs : fs ⊆ gs := fun f hf => (h f).mpr hf
  have hgs : gs ⊆ fs := fun f hf => (h f).mp hf
  constructor
  · intro r
    exact Bool.eq_iff_iff.mpr ⟨acceptsRole_of_subset hfs, acceptsRole_of_subset hgs⟩
  · intro r op
    exact Bool.eq_iff_iff.mpr ⟨acceptsOperation_of_subset hfs, acceptsOperation_of_subset hgs⟩

/-- A member that is a conjunction itself can be replaced by its own members. -/
theorem agrees_allOf_flatten (before nested after : List Filter) :
    (allOf (before ++ allOf nested :: after)).Agrees (allOf (before ++ nested ++ after)) := by
  constructor
  · intro r
    simp only [acceptsRole_allOf, List.all_append, List.all_cons, Bool.and_assoc]
  · intro r op
    simp only [acceptsOperation_allOf, List.all_append, List.all_cons, Bool.and_assoc]

theorem agrees_allOf_drop_all (before after : List Filter) :
    (allOf (before ++ all :: after)).Agrees (allOf (before ++ after)) := by
  constructor
  · intro r
    simp only [acceptsRole_allOf, List.all_append, List.all_cons, acceptsRole_all, Bool.true_and]
  · intro r op
    simp only [acceptsOperation_allOf, List.all_append, List.all_cons, acceptsOperation_all,
      Bool.true_and]

/-! ## Names of roles -/

theorem acceptsRole_roles {names : List String} {r : Role} :
    (roles names).acceptsRole r = true ↔ names = [] ∨ r.name ∈ names := by
  rw [acceptsRole, Bool.or_eq_true, List.isEmpty_iff, List.contains_iff_mem]

@[simp] theorem acceptsOperation_roles (names : List String) (r : Role) (op : Operation) :
    (roles names).acceptsOperation r op = true := by
  rw [acceptsOperation]

theorem agrees_roles_of_mem_iff {ns ms : List String} (h : ∀ n, n ∈ ns ↔ n ∈ ms) :
    (roles ns).Agrees (roles ms) := by
  have hnil : ns = [] ↔ ms = [] := by
    simp only [List.eq_nil_iff_forall_not_mem, h]
  constructor
  · intro r
    rw [Bool.eq_iff_iff, acceptsRole_roles, acceptsRole_roles, hnil, h]
  · intro r op
    rw [acceptsOperation_roles, acceptsOperation_roles]

theorem agrees_roles_nil : (roles []).Agrees all := by
  constructor
  · intro r
    rw [acceptsRole_all, acceptsRole_roles]
    exact .inl rfl
  · intro r op
    rw [acceptsOperation_roles, acceptsOperation_all]

/-! ## Annotations -/

theorem not_has_iff {annotations : List Annotation} {name : String} :
    (! Annotation.has annotations name) = true ↔ ¬ ∃ a ∈ annotations, a.name = name := by
  rw [Bool.not_eq_true', ← Bool.not_eq_true, Annotation.has, Annotation.find?,
    List.find?_isSome]
  simp only [beq_iff_eq]

theorem acceptsRole_exclude {name : String} {r : Role} :
    (exclude name).acceptsRole r = true ↔ ¬ ∃ a ∈ r.annotations, a.name = name := by
  rw [acceptsRole, not_has_iff]

theorem acceptsOperation_exclude {name : String} {r : Role} {op : Operation} :
    (exclude name).acceptsOperation r op = true ↔ ¬ ∃ a ∈ op.annotations, a.name = name := by
  rw [acceptsOperation, not_has_iff]

end Filter

/-! ## Pruning -/

open ProtoSchema.Filter

theorem Filter.Agrees.prune_eq {f g : Filter} (h : f.Agrees g) (s : Schema) :
    s.prune f = s.prune g := by
  have hroles : f.acceptsRole = g.acceptsRole := funext h.role
  have hoperations : f.acceptsOperation = g.acceptsOperation := by
    funext r op
    exact h.operation r op
  have hrole : Role.prune f = Role.prune g := by
    funext r
    rw [Role.prune, Role.prune, hoperations]
  rw [Schema.prune, Schema.prune, hroles, hrole]

theorem Role.prune_prune (f : Filter) (fs : List Filter) (r : Role) :
    (r.prune f).prune (.allOf fs) = r.prune (.allOf (f :: fs)) := by
  have hfilter : ∀ op ∈ r.operations,
      ((allOf fs).acceptsOperation (r.prune f) op && f.acceptsOperation r op) =
        (allOf (f :: fs)).acceptsOperation r op := by
    intro op _
    rw [acceptsOperation_congr rfl (r.prune f) r, acceptsOperation_allOf, acceptsOperation_allOf,
      List.all_cons, Bool.and_comm]
  simp only [Role.prune, List.filter_filter] at hfilter ⊢
  rw [List.filter_congr hfilter]

theorem Schema.prune_prune (f : Filter) (fs : List Filter) (s : Schema) :
    (s.prune f).prune (.allOf fs) = s.prune (.allOf (f :: fs)) := by
  have hrole : ∀ r ∈ s.roles,
      ((allOf fs).acceptsRole (r.prune f) && f.acceptsRole r) =
        (allOf (f :: fs)).acceptsRole r := by
    intro r _
    -- a pruned role has the name and the annotations that it had
    have hsame : (allOf fs).acceptsRole (r.prune f) = (allOf fs).acceptsRole r := by
      apply acceptsRole_congr <;> rfl
    rw [hsame, acceptsRole_allOf, acceptsRole_allOf, List.all_cons, Bool.and_comm]
  have hprune : Role.prune (.allOf fs) ∘ Role.prune f = Role.prune (.allOf (f :: fs)) :=
    funext (Role.prune_prune f fs)
  simp only [Schema.prune, List.filter_map, List.filter_filter, List.map_map, hprune,
    Function.comp_apply]
  rw [List.filter_congr hrole]

/-- Pruning by one filter after another is pruning by all of them at once. -/
theorem foldl_prune (fs : List Filter) (s : Schema) :
    fs.foldl (fun t f => t.prune f) s = s.prune (.allOf fs) := by
  induction fs generalizing s with
  | nil =>
    have hroles : ∀ r ∈ s.roles, (allOf []).acceptsRole r = true := by
      intro r _
      rw [acceptsRole_allOf, List.all_nil]
    have hrole : Role.prune (.allOf []) = id := by
      funext r
      have hoperations : ∀ op ∈ r.operations, (allOf []).acceptsOperation r op = true := by
        intro op _
        rw [acceptsOperation_allOf, List.all_nil]
      rw [Role.prune, List.filter_eq_self.mpr hoperations, id]
    rw [List.foldl_nil, Schema.prune, List.filter_eq_self.mpr hroles, hrole, List.map_id]
  | cons f fs ih => rw [List.foldl_cons, ih, Schema.prune_prune]

/-! ## The filter of a command line -/

/-- A command line accepts the operations of the roles that it names, or of all roles if it names
none, unless the role or the operation carries the annotation that is to be skipped. A single empty
name is as good as none. -/
theorem exists_options_accepts (settings : Command.Settings) :
    ∃ options, settings.options = .ok options ∧ ∀ (r : Role) (op : Operation),
      ((options.filterOrAll.acceptsRole r = true ∧
          options.filterOrAll.acceptsOperation r op = true) ↔
        (settings.roles = [] ∨ settings.roles = [""] ∨ ∃ name ∈ settings.roles,
            r.name.toList = Command.Record.plainBreaks name.toList) ∧
          (settings.skip = "" ∨ (¬ ∃ a ∈ r.annotations, a.name = settings.skip) ∧
            ¬ ∃ a ∈ op.annotations, a.name = settings.skip)) := by
  refine ⟨_, settings.options_eq, fun r op => ?_⟩
  rw [Proto.Options.filterOrAll, Option.getD_some, acceptsRole_allOf, acceptsOperation_allOf,
    List.all_cons, List.all_cons, acceptsOperation_roles, Bool.true_and, Bool.and_eq_true,
    acceptsRole_roles, Command.Record.reread_eq_nil_or_mem, and_assoc]
  refine and_congr_right fun _ => ?_
  by_cases hskip : settings.skip = ""
  · simp [hskip]
  · simp only [hskip, if_false, List.all_cons, List.all_nil, Bool.and_true, acceptsRole_exclude,
      acceptsOperation_exclude, false_or]

/-- Pruning by several filters at once is pruning by them one after another, in any order and each
as often as one likes. Nested conjunctions can be flattened, filters that accept everything can be
dropped, and of names of roles only the set counts, which accepts every role if it is empty. More
filters never accept what fewer reject. A command line's filter is made so: it accepts an operation
if the role is named, or none is, and neither carries the annotation to skip, if there is one. There
a single empty name is no name, and names are compared with plain line feeds, which most of them
have anyway. -/
theorem filters_compose (fs : List Filter) (s : Schema) :
    (∀ gs : List Filter, (∀ f, f ∈ gs ↔ f ∈ fs) →
      s.prune (.allOf fs) = gs.foldl (fun t f => t.prune f) s) ∧
    (∀ before nested after : List Filter,
      (allOf (before ++ allOf nested :: after)).Agrees (allOf (before ++ nested ++ after))) ∧
    (∀ before after : List Filter,
      (allOf (before ++ all :: after)).Agrees (allOf (before ++ after))) ∧
    (∀ ns ms : List String, (∀ n, n ∈ ns ↔ n ∈ ms) → (roles ns).Agrees (roles ms)) ∧
    (roles []).Agrees all ∧
    (∀ gs : List Filter, fs ⊆ gs → ∀ r op,
      ((allOf fs).acceptsRole r = false → (allOf gs).acceptsRole r = false) ∧
      ((allOf fs).acceptsOperation r op = false → (allOf gs).acceptsOperation r op = false)) ∧
    (∀ settings : Command.Settings,
      ∃ options, settings.options = .ok options ∧ ∀ (r : Role) (op : Operation),
        ((options.filterOrAll.acceptsRole r = true ∧
            options.filterOrAll.acceptsOperation r op = true) ↔
          (settings.roles = [] ∨ settings.roles = [""] ∨ ∃ name ∈ settings.roles,
              r.name.toList = Command.Record.plainBreaks name.toList) ∧
            (settings.skip = "" ∨ (¬ ∃ a ∈ r.annotations, a.name = settings.skip) ∧
              ¬ ∃ a ∈ op.annotations, a.name = settings.skip))) ∧
    ∀ name : List Char, (∀ front back, name ≠ front ++ '\r' :: '\n' :: back) →
      Command.Record.plainBreaks name = name := by
  refine ⟨?_, agrees_allOf_flatten, agrees_allOf_drop_all, fun ns ms => agrees_roles_of_mem_iff,
    agrees_roles_nil, ?_, exists_options_accepts,
    fun name => Command.Record.plainBreaks_eq_self⟩
  · intro gs hmem
    rw [foldl_prune, (agrees_allOf_of_mem_iff hmem).prune_eq]
  · intro gs hsubset r op
    simp only [← Bool.not_eq_true]
    exact ⟨mt (acceptsRole_of_subset hsubset), mt (acceptsOperation_of_subset hsubset)⟩

/-- Two filters, and the same two in another order with one of them twice: what is left of two roles
is one operation. -/
theorem filters_compose_repeated :
    let fs : List Filter := [.roles ["A"], .exclude "internal"]
    let gs : List Filter := [.exclude "internal", .roles ["A"], .exclude "internal"]
    let a : Role := { name := "A", operations :=
      [{ name := "f", annotations := [{ name := "internal" }] }, { name := "g" }] }
    let s : Schema := { roles := [a, { name := "B", operations := [{ name := "h" }] }] }
    (∀ f, f ∈ gs ↔ f ∈ fs) ∧ s.prune (.allOf fs) = gs.foldl (fun t f => t.prune f) s ∧
      (s.prune (.allOf fs)).roles.map (fun r => (r.name, r.operations.map (·.name))) =
        [("A", ["g"])] := by
  intro fs gs a s
  have hmem : ∀ f, f ∈ gs ↔ f ∈ fs := by
    intro f
    simp only [fs, gs, List.mem_cons, List.not_mem_nil, or_false]
    tauto
  exact ⟨hmem, (filters_compose fs s).1 gs hmem, by decide +kernel⟩

end ProtoSchema
