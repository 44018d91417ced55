import ProtoSchema.Proofs.Requests

/-!
# Filtering is pruning

A filter is asked twice, for roles and for operations, in the middle of a rendering that also
collects requests. It could as well have been applied to the schema beforehand: rendering a schema
under a filter and rendering the pruned schema without one differ in the log alone
(`silent_generate_prune`), whether they succeed or fail.
-/

namespace ProtoSchema

/-- The role with the operations that a filter accepts. -/
def Role.prune (f : Filter) (r : Role) : Role :=
  { r with operations := r.operations.filter (f.acceptsOperation r) }

/-- The schema with the roles and operations that a filter accepts. -/
def Schema.prune (f : Filter) (s : Schema) : Schema :=
  { s with roles := (s.roles.filter f.acceptsRole).map (Role.prune f) }

@[simp] theorem Filter.acceptsRole_all (r : Role) : Filter.all.acceptsRole r = true := by
  rw [acceptsRole]

@[simp] theorem Filter.acceptsOperation_all (r : Role) (op : Operation) :
    Filter.all.acceptsOperation r op = true := by
  rw [acceptsOperation]

namespace Proto

open Output

/-- A service under a filter is the service of the pruned role. -/
theorem silent_serviceBlock_prune (f : Filter) (r : Role) :
    (serviceBlock .all (r.prune f)).silent = (serviceBlock f r).silent := by
  simp only [serviceBlock, sequence_cons, sequence_nil, silent_andThen, silent_all_skip,
    Filter.acceptsOperation_all]
  rfl

theorem silent_services_prune (f : Filter) (roles : List Role) :
    (services .all ((roles.filter f.acceptsRole).map (Role.prune f))).silent =
      (services f roles).silent := by
  simp only [services, silent_all_skip, Filter.acceptsRole_all]
  rw [all_map, silent_all, silent_all]
  exact all_congr fun r _ => silent_serviceBlock_prune f r

theorem silent_declarations_prune (o : Options) (s : Schema) :
    (declarations { o with filter := none } (s.prune o.filterOrAll)).silent =
      (declarations o s).silent := by
  simp only [declarations, sequence_cons, sequence_nil, silent_andThen]
  have hs : (services (Options.filterOrAll { o with filter := none })
      (s.prune o.filterOrAll).roles).silent = (services o.filterOrAll s.roles).silent :=
    silent_services_prune o.filterOrAll s.roles
  rw [hs]
  rfl

/-- Only the log of a rendering tells a filtered schema from a pruned one. -/
theorem silent_generate_prune (o : Options) (s : Schema) :
    (generate { o with filter := none } (s.prune o.filterOrAll)).silent =
      (generate o s).silent := by
  have hd := silent_declarations_prune o s
  simp only [generate, silent_andThen, hd]
  -- the queue is filled by the declarations, so it is the same on both sides
  rw [(eq_of_silent_eq hd).2.1]

/-- Rendering depends on what is generated apart from the log. -/
theorem render_eq_of_silent_eq {o o' : Options} {s s' : Schema}
    (h : (generate o s).silent = (generate o' s').silent) : render o s = render o' s' := by
  obtain ⟨hl, -, hf⟩ := eq_of_silent_eq h
  simp only [render, text, hl, hf]

/-- Rendering under a filter has the outcome of rendering the pruned schema without a filter: the
same text or error, the same text written up to a failure, and the same requests. These are those of
the accepted operations that bundle, all of them unless the rendering fails. If the options have a
filter, it is the one that prunes and accepts. -/
theorem generate_eq_generate_prune (o : Options) (s : Schema) :
    let unfiltered := { o with filter := none }
    let pruned := s.prune o.filterOrAll
    render o s = render unfiltered pruned ∧
      (generate o s).failure = (generate unfiltered pruned).failure ∧
      (generate o s).text = (generate unfiltered pruned).text ∧
      (generate o s).requests = (generate unfiltered pruned).requests ∧
      (generate o s).Makes (requestsOf (o.filterOrAll.accepted s.roles)) ∧
      ∀ f, o.filter = some f →
        pruned = s.prune f ∧ (generate o s).Makes (requestsOf (f.accepted s.roles)) := by
  intro unfiltered pruned
  have h := (silent_generate_prune o s).symm
  obtain ⟨hl, hr, hf⟩ := eq_of_silent_eq h
  have ht : (generate o s).text = (generate unfiltered pruned).text := by
    rw [text, hl]
    rfl
  refine ⟨render_eq_of_silent_eq h, hf, ht, hr, makes_generate o s, fun f hfilter => ?_⟩
  have hor : o.filterOrAll = f := by rw [Options.filterOrAll, hfilter, Option.getD_some]
  exact ⟨congrArg s.prune hor, hor ▸ makes_generate o s⟩

end Proto

end ProtoSchema
