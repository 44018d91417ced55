import Mathlib.Data.List.Forall2

/-!
# Results taken apart

A computation that gives a value gave one at each of its steps. The error of one that fails is
`errorOf` of it.
-/

namespace ProtoSchema

variable {ε δ α β : Type}

theorem toOption_eq_some {r : Except ε α} {a : α} : r.toOption = some a ↔ r = .ok a := by
  cases r with
  | error e => simp [Except.toOption]
  | ok b => simp [Except.toOption]

theorem map_eq_ok {r : Except ε α} {f : α → β} {b : β} :
    r.map f = .ok b ↔ ∃ a, r = .ok a ∧ f a = b := by
  cases r with
  | error e => simp [Except.map]
  | ok a => simp [Except.map]

theorem mapError_eq_ok {r : Except ε α} {f : ε → δ} {a : α} :
    r.mapError f = .ok a ↔ r = .ok a := by
  cases r with
  | error e => simp [Except.mapError]
  | ok b => simp [Except.mapError]

theorem bind_eq_ok {r : Except ε α} {f : α → Except ε β} {b : β} :
    r >>= f = .ok b ↔ ∃ a, r = .ok a ∧ f a = .ok b := by
  cases r with
  | error e => simp [bind, Except.bind]
  | ok a => simp [bind, Except.bind]

theorem ite_error_eq_ok {c : Prop} [Decidable c] {e : ε} {r : Except ε α} {a : α} :
    (if c then .error e else r) = .ok a ↔ ¬ c ∧ r = .ok a := by
  by_cases h : c <;> simp [h]

/-- A check that stops in the middle of a computation, whatever would have followed it. -/
theorem ite_throw_eq_ok {c : Prop} [Decidable c] {e : ε} {k : β → Except ε α} {r : Except ε α}
    {a : α} : (if c then throw e >>= k else r) = .ok a ↔ ¬ c ∧ r = .ok a :=
  ite_error_eq_ok

theorem mapM_eq_ok {f : α → Except ε β} {as : List α} {bs : List β} :
    as.mapM f = .ok bs ↔ List.Forall₂ (fun a b => f a = .ok b) as bs := by
  induction as generalizing bs with
  | nil => simp [pure, Except.pure, eq_comm]
  | cons a as ih =>
    simp only [List.mapM_cons, bind_eq_ok, ih, List.forall₂_cons_left_iff, pure, Except.pure,
      Except.ok.injEq]
    constructor
    · rintro ⟨b, hb, bs', hbs, rfl⟩
      exact ⟨b, bs', hb, hbs, rfl⟩
    · rintro ⟨b, bs', hb, hbs, rfl⟩
      exact ⟨b, hb, bs', hbs, rfl⟩

/-- The error of a result that is none. -/
def errorOf : Except ε α → Option ε
  | .error e => some e
  | .ok _ => none

theorem errorOf_eq_none {r : Except ε α} : errorOf r = none ↔ ∃ a, r = .ok a := by
  cases r with
  | error e => simp [errorOf]
  | ok a => simp [errorOf]

theorem errorOf_eq_some {r : Except ε α} {e : ε} : errorOf r = some e ↔ r = .error e := by
  cases r with
  | error d => simp [errorOf]
  | ok a => simp [errorOf]

/-- A computation in two steps fails as the first, or else as the second; that must not depend on
what the first gave, of the values that it can give. -/
theorem errorOf_bind_of_ok {f : α → Except ε β} {later : Option ε} {r : Except ε α}
    (h : ∀ a, r = .ok a → errorOf (f a) = later) : errorOf (r >>= f) = (errorOf r).or later := by
  cases r with
  | error e => rfl
  | ok a => exact h a rfl

theorem errorOf_bind {f : α → Except ε β} {later : Option ε} (h : ∀ a, errorOf (f a) = later)
    (r : Except ε α) : errorOf (r >>= f) = (errorOf r).or later :=
  errorOf_bind_of_ok fun a _ => h a

theorem errorOf_bind_pure (f : α → β) (r : Except ε α) :
    errorOf (r >>= fun a => pure (f a)) = errorOf r := by
  cases r <;> rfl

/-- The items of a list are gone through in order. -/
theorem errorOf_mapM (f : α → Except ε β) (as : List α) :
    errorOf (as.mapM f) = as.findSome? fun a => errorOf (f a) := by
  induction as with
  | nil => rfl
  | cons a as ih =>
    rw [List.mapM_cons, errorOf_bind (fun b => errorOf_bind_pure _ _), ih, List.findSome?_cons]
    cases errorOf (f a) <;> rfl

theorem errorOf_ite_error {c : Prop} [Decidable c] {e : ε} {r : Except ε α} :
    errorOf (if c then .error e else r) = (if c then some e else none).or (errorOf r) := by
  split <;> rfl

theorem errorOf_ite_throw {c : Prop} [Decidable c] {e : ε} {k : β → Except ε α}
    {r : Except ε α} :
    errorOf (if c then throw e >>= k else r) = (if c then some e else none).or (errorOf r) :=
  errorOf_ite_error

@[simp] theorem errorOf_mapError (f : ε → δ) (r : Except ε α) :
    errorOf (r.mapError f) = (errorOf r).map f := by
  cases r <;> rfl

end ProtoSchema
