import ProtoSchema.Schema

/-!
Filters choose roles and operations of a schema.
-/
namespace ProtoSchema

/-- A filter: everything, the roles of given names (all of them if none is given), what does not
carry an annotation, or what several filters all accept. -/
inductive Filter where
  | all
  | roles (names : List String)
  | exclude (name : String)
  | allOf (filters : List Filter)
deriving Repr, Inhabited

namespace Filter

mutual

/-- Whether the filter accepts a role. -/
def acceptsRole : Filter → Role → Bool
  | all, _ => true
  | roles names, r => names.isEmpty || names.contains r.name
  | exclude name, r => ! Annotation.has r.annotations name
  | allOf filters, r => allAcceptRole filters r

/-- Whether all filters accept a role. -/
def allAcceptRole : List Filter → Role → Bool
  | [], _ => true
  | f :: fs, r => f.acceptsRole r && allAcceptRole fs r

end

mutual

/-- Whether the filter accepts an operation of a role. -/
def acceptsOperation : Filter → Role → Operation → Bool
  | all, _, _ => true
  | roles _, _, _ => true
  | exclude name, _, op => ! Annotation.has op.annotations name
  | allOf filters, r, op => allAcceptOperation filters r op

/-- Whether all filters accept an operation of a role. -/
def allAcceptOperation : List Filter → Role → Operation → Bool
  | [], _, _ => true
  | f :: fs, r, op => f.acceptsOperation r op && allAcceptOperation fs r op

end

end Filter

end ProtoSchema
