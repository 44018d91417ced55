import ProtoSchema.Proofs.Resolution

/-!
# The leftmost unknown part

A type is a tree, and absent or foreign types can stand at any of its leaves. A position is the way
from the root to a part, and of two positions that part at a map, the one that goes to the key is on
the left. A signature fails exactly if there is an absent or foreign part, and the error is about the
leftmost of them (`signature_error_iff`).

There is at most one leftmost part (`IsLeftmost.unique`), so it is enough to find the part that each
failure is about. That follows the recursion of `signature`: the leftmost part of a map is that of
its key, or that of its value if the key has none.
-/

namespace ProtoSchema.TypeExpr

/-! ## Positions -/

/-- The way from a type to one of the types that it is made of. -/
inductive Step where
  | element
  | key
  | value
  | inner

/-- A type has a part at a position. -/
inductive PartAt : TypeExpr → List Step → TypeExpr → Prop
  | here {t : TypeExpr} : PartAt t [] t
  | element {t u : TypeExpr} {p : List Step} (h : PartAt t p u) : PartAt (list t) (.element :: p) u
  | key {t v u : TypeExpr} {p : List Step} (h : PartAt t p u) : PartAt (map t v) (.key :: p) u
  | value {k t u : TypeExpr} {p : List Step} (h : PartAt t p u) : PartAt (map k t) (.value :: p) u
  | inner {t u : TypeExpr} {p : List Step} (h : PartAt t p u) :
      PartAt (optional t) (.inner :: p) u

/-- The first position is on the left of the second: they part at a map, and the first goes to the
key. -/
inductive LeftOf : List Step → List Step → Prop
  | here {p q : List Step} : LeftOf (.key :: p) (.value :: q)
  | there {s : Step} {p q : List Step} (h : LeftOf p q) : LeftOf (s :: p) (s :: q)

theorem PartAt.unique {t u v : TypeExpr} {p : List Step} (hu : PartAt t p u) (hv : PartAt t p v) :
    u = v := by
  induction hu with
  | here =>
    cases hv
    rfl
  | element _ ih =>
    cases hv with
    | element hv => exact ih hv
  | key _ ih =>
    cases hv with
    | key hv => exact ih hv
  | value _ ih =>
    cases hv with
    | value hv => exact ih hv
  | inner _ ih =>
    cases hv with
    | inner hv => exact ih hv

theorem LeftOf.asymm {p q : List Step} (h : LeftOf p q) : ¬ LeftOf q p := by
  induction h with
  | here =>
    intro hback
    cases hback
  | there _ ih =>
    intro hback
    cases hback with
    | there hback => exact ih hback

/-! ## Unknown parts -/

/-- Proto3 cannot express the type, whatever stands around it. -/
def IsUnknown (t : TypeExpr) : Prop := t = absent ∨ ∃ type, t = foreign type

theorem IsUnknown.not_resolvable {t : TypeExpr} (h : t.IsUnknown) : ¬ t.Resolvable := by
  rcases h with rfl | ⟨type, rfl⟩
  · exact id
  · exact id

/-- A type that can be expressed has no part that cannot. -/
theorem Resolvable.partAt {t u : TypeExpr} {p : List Step} (ht : t.Resolvable)
    (h : PartAt t p u) : u.Resolvable := by
  induction h with
  | here => exact ht
  | element _ ih => exact ih ht
  | key _ ih => exact ih ht.1
  | value _ ih => exact ih ht.2
  | inner _ ih => exact ih ht

/-- The error is about the type by itself. -/
inductive Describes : UnsupportedType → TypeExpr → Prop
  | absent : Describes .absent .absent
  | foreign (type : ForeignType) : Describes (.foreign type.name) (.foreign type)

theorem Describes.isUnknown {e : UnsupportedType} {t : TypeExpr} (h : Describes e t) :
    t.IsUnknown := by
  cases h with
  | absent => exact .inl rfl
  | foreign type => exact .inr ⟨type, rfl⟩

theorem Describes.unique {d e : UnsupportedType} {t : TypeExpr} (hd : Describes d t)
    (he : Describes e t) : d = e := by
  cases hd with
  | absent =>
    cases he
    rfl
  | foreign type =>
    cases he
    rfl

/-- The part at a position is unknown, and every other unknown part is on the right of it. -/
structure IsLeftmost (t : TypeExpr) (p : List Step) (u : TypeExpr) : Prop where
  part : PartAt t p u
  unknown : u.IsUnknown
  first : ∀ q w, PartAt t q w → w.IsUnknown → q = p ∨ LeftOf p q

theorem IsLeftmost.unique {t u w : TypeExpr} {p q : List Step} (hu : IsLeftmost t p u)
    (hw : IsLeftmost t q w) : u = w := by
  have hpq : q = p := by
    rcases hu.first q w hw.part hw.unknown with heq | hleft
    · exact heq
    · rcases hw.first p u hu.part hu.unknown with heq | hright
      · exact heq.symm
      · exact absurd hright hleft.asymm
  rw [hpq] at hw
  exact hu.part.unique hw.part

/-! ## From the parts of a type to the type -/

theorem IsUnknown.isLeftmost {t : TypeExpr} (h : t.IsUnknown) : IsLeftmost t [] t := by
  refine ⟨.here, h, fun q w hw _ => .inl ?_⟩
  rcases h with rfl | ⟨type, rfl⟩
  · cases hw
    rfl
  · cases hw
    rfl

variable {t u k v : TypeExpr} {p : List Step}

theorem not_isUnknown_list : ¬ (list t).IsUnknown := by simp [IsUnknown]

theorem not_isUnknown_map : ¬ (map k v).IsUnknown := by simp [IsUnknown]

theorem not_isUnknown_optional : ¬ (optional t).IsUnknown := by simp [IsUnknown]

theorem IsLeftmost.element (h : IsLeftmost t p u) : IsLeftmost (list t) (.element :: p) u := by
  refine ⟨h.part.element, h.unknown, fun q w hw hunknown => ?_⟩
  cases hw with
  | here => exact absurd hunknown not_isUnknown_list
  | element hw => exact (h.first _ w hw hunknown).imp (congrArg _) .there

theorem IsLeftmost.inner (h : IsLeftmost t p u) : IsLeftmost (optional t) (.inner :: p) u := by
  refine ⟨h.part.inner, h.unknown, fun q w hw hunknown => ?_⟩
  cases hw with
  | here => exact absurd hunknown not_isUnknown_optional
  | inner hw => exact (h.first _ w hw hunknown).imp (congrArg _) .there

/-- Whatever is in the value is on the right of the key. -/
theorem IsLeftmost.key (h : IsLeftmost k p u) : IsLeftmost (map k v) (.key :: p) u := by
  refine ⟨h.part.key, h.unknown, fun q w hw hunknown => ?_⟩
  cases hw with
  | here => exact absurd hunknown not_isUnknown_map
  | key hw => exact (h.first _ w hw hunknown).imp (congrArg _) .there
  | value _ => exact .inr .here

theorem IsLeftmost.value (hk : k.Resolvable) (h : IsLeftmost v p u) :
    IsLeftmost (map k v) (.value :: p) u := by
  refine ⟨h.part.value, h.unknown, fun q w hw hunknown => ?_⟩
  cases hw with
  | here => exact absurd hunknown not_isUnknown_map
  | key hw => exact absurd (hk.partAt hw) hunknown.not_resolvable
  | value hw => exact (h.first _ w hw hunknown).imp (congrArg _) .there

/-! ## Failures -/

/-- The error of a signature is about the leftmost unknown part. -/
theorem exists_isLeftmost_of_errorOf {e : UnsupportedType} (h : errorOf t.signature = some e) :
    ∃ p u, IsLeftmost t p u ∧ Describes e u := by
  induction t with
  | named name => cases h
  | list element ih =>
    rw [errorOf_signature_list] at h
    obtain ⟨p, u, hu, he⟩ := ih h
    exact ⟨_, u, hu.element, he⟩
  | map key value ihk ihv =>
    rw [errorOf_signature_map, Option.or_eq_some_iff] at h
    rcases h with hkey | ⟨hkey, hvalue⟩
    · obtain ⟨p, u, hu, he⟩ := ihk hkey
      exact ⟨_, u, hu.key, he⟩
    · -- the value comes into it only if there is nothing unknown in the key
      obtain ⟨p, u, hu, he⟩ := ihv hvalue
      exact ⟨_, u, hu.value (errorOf_signature_eq_none.mp hkey), he⟩
  | optional inner ih =>
    rw [errorOf_signature_optional] at h
    obtain ⟨p, u, hu, he⟩ := ih h
    exact ⟨_, u, hu.inner, he⟩
  | absent =>
    cases h
    exact ⟨[], absent, Describes.absent.isUnknown.isLeftmost, .absent⟩
  | foreign type =>
    cases h
    exact ⟨[], foreign type, (Describes.foreign type).isUnknown.isLeftmost, .foreign type⟩

theorem exists_error_of_partAt (hu : PartAt t p u) (hunknown : u.IsUnknown) :
    ∃ e, t.signature = .error e := by
  cases hsignature : t.signature with
  | error e => exact ⟨e, rfl⟩
  | ok text =>
    have hresolvable := (signature_eq_ok.mp hsignature).1
    exact absurd (hresolvable.partAt hu) hunknown.not_resolvable

/-- A type has no signature if and only if some part of it is absent or foreign. The error is then
about the leftmost of these parts, and it says which it is. -/
theorem signature_error_iff (t : TypeExpr) :
    ((∃ e, t.signature = .error e) ↔ ∃ p u, PartAt t p u ∧ u.IsUnknown) ∧
      (∀ e, t.signature = .error e ↔ ∃ p u, IsLeftmost t p u ∧ Describes e u) ∧
      ∀ e p u, t.signature = .error e → IsLeftmost t p u →
        u = absent ∧ e.message = "unsupported type: nil type" ∨
          ∃ type, u = foreign type ∧ e.message = "unsupported type: " ++ type.name := by
  have hdescribed {e : UnsupportedType} {p : List Step} {u : TypeExpr}
      (he : t.signature = .error e) (hu : IsLeftmost t p u) : Describes e u := by
    obtain ⟨q, w, hw, hew⟩ := exists_isLeftmost_of_errorOf (errorOf_eq_some.mpr he)
    rwa [hw.unique hu] at hew
  refine ⟨⟨?_, ?_⟩, fun e => ⟨?_, ?_⟩, ?_⟩
  · rintro ⟨e, he⟩
    obtain ⟨p, u, hu, -⟩ := exists_isLeftmost_of_errorOf (errorOf_eq_some.mpr he)
    exact ⟨p, u, hu.part, hu.unknown⟩
  · rintro ⟨p, u, hu, hunknown⟩
    exact exists_error_of_partAt hu hunknown
  · intro he
    exact exists_isLeftmost_of_errorOf (errorOf_eq_some.mpr he)
  · rintro ⟨p, u, hu, he⟩
    obtain ⟨d, hd⟩ := exists_error_of_partAt hu.part hu.unknown
    rw [hd, (hdescribed hd hu).unique he]
  · intro e p u he hu
    cases hdescribed he hu with
    | absent => exact .inl ⟨rfl, rfl⟩
    | foreign type => exact .inr ⟨type, rfl, rfl⟩

-- The key is looked at first, and in it the value of a map, though it lies deeper than what follows.
example (type : ForeignType) (text : String) :
    (map (list (map (named text) (optional absent))) (foreign type)).signature = .error .absent :=
  rfl

end ProtoSchema.TypeExpr
