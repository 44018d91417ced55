import ProtoSchema.Schema.Filter

/-!
# What filters look at

A filter decides about a role by its name and its annotations (`acceptsRole_congr`), and about an
operation by its annotations (`acceptsOperation_congr`). Nothing else of a schema has any influence,
however filters are nested.
-/

namespace ProtoSchema.Filter

mutual

theorem acceptsRole_congr {r r' : Role} (hname : r.name = r'.name)
    (hannotations : r.annotations = r'.annotations) :
    ∀ f : Filter, f.acceptsRole r = f.acceptsRole r'
  | .all => by rw [acceptsRole, acceptsRole]
  | .roles _ => by rw [acceptsRole, acceptsRole, hname]
  | .exclude _ => by rw [acceptsRole, acceptsRole, hannotations]
  | .allOf filters => by
    rw [acceptsRole, acceptsRole, allAcceptRole_congr hname hannotations filters]

theorem allAcceptRole_congr {r r' : Role} (hname : r.name = r'.name)
    (hannotations : r.annotations = r'.annotations) :
    ∀ fs : List Filter, allAcceptRole fs r = allAcceptRole fs r'
  | [] => by rw [allAcceptRole, allAcceptRole]
  | f :: fs => by
    rw [allAcceptRole, allAcceptRole, acceptsRole_congr hname hannotations f,
      allAcceptRole_congr hname hannotations fs]

end

mutual

/-- The role of an operation plays no part. -/
theorem acceptsOperation_congr {op op' : Operation} (h : op.annotations = op'.annotations)
    (r r' : Role) : ∀ f : Filter, f.acceptsOperation r op = f.acceptsOperation r' op'
  | .all => by rw [acceptsOperation, acceptsOperation]
  | .roles _ => by rw [acceptsOperation, acceptsOperation]
  | .exclude _ => by rw [acceptsOperation, acceptsOperation, h]
  | .allOf filters => by
    rw [acceptsOperation, acceptsOperation, allAcceptOperation_congr h r r' filters]

theorem allAcceptOperation_congr {op op' : Operation} (h : op.annotations = op'.annotations)
    (r r' : Role) : ∀ fs : List Filter, allAcceptOperation fs r op = allAcceptOperation fs r' op'
  | [] => by rw [allAcceptOperation, allAcceptOperation]
  | f :: fs => by
    rw [allAcceptOperation, allAcceptOperation, acceptsOperation_congr h r r' f,
      allAcceptOperation_congr h r r' fs]

end

end ProtoSchema.Filter
