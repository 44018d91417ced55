import ProtoSchema.Proofs.Results
import ProtoSchema.Proto.Signature

/-!
# Types that proto3 can express

A type has a signature exactly if none of its parts is absent or foreign
(`errorOf_signature_eq_none`). The signature is then the text of the type (`signature_eq_ok`), which
is given for every type and never fails.
-/

namespace ProtoSchema.TypeExpr

/-- No part of the type is absent or foreign. -/
def Resolvable : TypeExpr → Prop
  | named _ => True
  | list element => element.Resolvable
  | map key value => key.Resolvable ∧ value.Resolvable
  | optional inner => inner.Resolvable
  | absent => False
  | foreign _ => False

/-- The proto3 spelling of a type, with nothing in the place of what proto3 cannot express. -/
def protoText : TypeExpr → String
  | named name => protoName name
  | list element => "repeated " ++ element.protoText
  | map key value => "map<" ++ key.protoText ++ ", " ++ value.protoText ++ ">"
  | optional inner => "optional " ++ inner.protoText
  | absent => ""
  | foreign _ => ""

theorem errorOf_signature_list (element : TypeExpr) :
    errorOf (list element).signature = errorOf element.signature := by
  rw [signature, errorOf_bind_pure]

/-- The key of a map is looked at before its value. -/
theorem errorOf_signature_map (key value : TypeExpr) :
    errorOf (map key value).signature = (errorOf key.signature).or (errorOf value.signature) := by
  rw [signature]
  exact errorOf_bind (fun k => errorOf_bind_pure _ _) _

theorem errorOf_signature_optional (inner : TypeExpr) :
    errorOf (optional inner).signature = errorOf inner.signature := by
  rw [signature, errorOf_bind_pure]

theorem errorOf_signature_eq_none {t : TypeExpr} : errorOf t.signature = none ↔ t.Resolvable := by
  induction t with
  | named name => exact ⟨fun _ => trivial, fun _ => rfl⟩
  | list element ih => rw [errorOf_signature_list, ih, Resolvable]
  | map key value ihk ihv =>
    rw [errorOf_signature_map, Option.or_eq_none_iff, ihk, ihv, Resolvable]
  | optional inner ih => rw [errorOf_signature_optional, ih, Resolvable]
  | absent => exact ⟨fun h => (by cases h), False.elim⟩
  | foreign type => exact ⟨fun h => (by cases h), False.elim⟩

theorem eq_protoText_of_signature {t : TypeExpr} {signature : String}
    (h : t.signature = .ok signature) : signature = t.protoText := by
  induction t generalizing signature with
  | named name =>
    cases h
    rfl
  | list element ih =>
    obtain ⟨inner, hinner, hsignature⟩ := bind_eq_ok.mp h
    cases hsignature
    rw [ih hinner, protoText]
  | map key value ihk ihv =>
    obtain ⟨k, hk, hrest⟩ := bind_eq_ok.mp h
    obtain ⟨v, hv, hsignature⟩ := bind_eq_ok.mp hrest
    cases hsignature
    rw [ihk hk, ihv hv, protoText]
  | optional inner ih =>
    obtain ⟨text, htext, hsignature⟩ := bind_eq_ok.mp h
    cases hsignature
    rw [ih htext, protoText]
  | absent => cases h
  | foreign type => cases h

theorem signature_eq_ok {t : TypeExpr} {signature : String} :
    t.signature = .ok signature ↔ t.Resolvable ∧ signature = t.protoText := by
  constructor
  · intro h
    refine ⟨errorOf_signature_eq_none.mp ?_, eq_protoText_of_signature h⟩
    rw [h]
    rfl
  · rintro ⟨hresolvable, rfl⟩
    obtain ⟨text, htext⟩ := errorOf_eq_none.mp (errorOf_signature_eq_none.mpr hresolvable)
    rw [htext, eq_protoText_of_signature htext]

end ProtoSchema.TypeExpr
