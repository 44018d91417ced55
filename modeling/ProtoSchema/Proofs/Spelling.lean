import ProtoSchema.Proofs.TypeGrammar

/-!
# Spelling types

`spell` writes a type and `parse` reads one. The types that can be read are those in which every
name is one (`WellNamed`), and on these the two are inverse to each other: the spelling of a type
derives that type (`derivesCore_spell`), and whatever derives a type, the type is well named
(`Derives.wellNamed`). So a spelling is one of many texts for its type, and the only one that
`spell` chooses.
-/

namespace ProtoSchema.TypeExpr

open Text

/-- The type is made of names, lists, maps and optional types, and its names are names. -/
def WellNamed : TypeExpr → Prop
  | named name => IsName name.toList
  | list element => element.WellNamed
  | map key value => key.WellNamed ∧ value.WellNamed
  | optional inner => inner.WellNamed
  | absent => False
  | foreign _ => False

theorem DerivesCore.derives {s : List Char} {t : TypeExpr} (h : DerivesCore s t) : Derives s t := by
  have hpad := Derives.padded (v := []) (w := []) (by simp [Blank]) h (by simp [Blank])
  rwa [List.nil_append, List.append_nil] at hpad

/-- What is written for a type derives it: there is no white space but after the colon of a map. -/
theorem derivesCore_spell {t : TypeExpr} (h : t.WellNamed) : DerivesCore t.spell.toList t := by
  induction t with
  | named name =>
    have hname := DerivesCore.name (s := name.toList) h
    rwa [String.ofList_toList] at hname
  | list element ih =>
    have hspell : (list element).spell.toList = '[' :: element.spell.toList ++ [']'] := by
      simp [spell]
    rw [hspell]
    exact .list (ih h).derives
  | map key value ihk ihv =>
    have hspell : (map key value).spell.toList =
        '{' :: (key.spell.toList ++ ':' :: ([' '] ++ value.spell.toList ++ [])) ++ ['}'] := by
      simp [spell]
    rw [hspell]
    exact .map (ihk h.1).derives (.padded (by simp [Blank]; decide) (ihv h.2) (by simp [Blank]))
  | optional inner ih =>
    have hspell : (optional inner).spell.toList = inner.spell.toList ++ ['?'] := by
      simp [spell]
    rw [hspell]
    exact .optional (ih h).derives
  | absent => exact h.elim
  | foreign type => exact h.elim

mutual

theorem Derives.wellNamed {s : List Char} {t : TypeExpr} : Derives s t → t.WellNamed
  | .padded _ hs _ => hs.wellNamed

theorem DerivesCore.wellNamed {s : List Char} {t : TypeExpr} : DerivesCore s t → t.WellNamed
  | .name hs => by
    rw [WellNamed, String.toList_ofList]
    exact hs
  | .list hs => hs.wellNamed
  | .map hs₁ hs₂ => ⟨hs₁.wellNamed, hs₂.wellNamed⟩
  | .optional hs => hs.wellNamed

end

theorem parse_spell {t : TypeExpr} (h : t.WellNamed) : parse t.spell = .ok t :=
  parseChars_eq_ok_iff.mpr (derivesCore_spell h).derives

theorem wellNamed_of_parse {e : String} {t : TypeExpr} (h : parse e = .ok t) : t.WellNamed :=
  (parseChars_eq_ok_iff.mp h).wellNamed

/-- Well-named types with one spelling are one type. -/
theorem eq_of_spell_eq {t u : TypeExpr} (ht : t.WellNamed) (hu : u.WellNamed)
    (h : t.spell = u.spell) : t = u := by
  have hread := parse_spell ht
  rw [h, parse_spell hu] at hread
  exact (Except.ok.inj hread).symm

/-- Spelling and reading are inverse. Every well-named type is read back from its spelling; every
type that is read is well named, so its spelling is one more text for it; and two texts are read as
one type exactly if what is read has one spelling. -/
theorem spell_canonical :
    (∀ t : TypeExpr, t.WellNamed → parse t.spell = .ok t) ∧
      (∀ e t, parse e = .ok t → t.WellNamed ∧ parse t.spell = .ok t) ∧
      ∀ e₁ e₂ t₁ t₂, parse e₁ = .ok t₁ → parse e₂ = .ok t₂ →
        (parse e₁ = parse e₂ ↔ t₁.spell = t₂.spell) := by
  refine ⟨fun t ht => parse_spell ht, ?_, ?_⟩
  · intro e t he
    have ht := wellNamed_of_parse he
    exact ⟨ht, parse_spell ht⟩
  · intro e₁ e₂ t₁ t₂ h₁ h₂
    rw [h₁, h₂, Except.ok.injEq]
    constructor
    · intro heq
      rw [heq]
    · intro hspell
      exact eq_of_spell_eq (wellNamed_of_parse h₁) (wellNamed_of_parse h₂) hspell

/-- A key that is a list of optional maps, read with white space around its parts, and another type
that differs in the place of a question mark. -/
theorem spell_canonical_nested :
    let e₁ := " \x7b [\x7ba:b\x7d?] :\tc? ? \x7d"
    let e₂ := "\x7b[\x7ba: b\x7d?]: c?\x7d?"
    let key := list (optional (map (named "a") (named "b")))
    let t₁ := map key (optional (optional (named "c")))
    let t₂ := optional (map key (optional (named "c")))
    parse e₁ = .ok t₁ ∧ parse e₂ = .ok t₂ ∧ t₁.WellNamed ∧ parse t₁.spell = .ok t₁ ∧
      (parse e₁ = parse e₂ ↔ t₁.spell = t₂.spell) := by
  intro e₁ e₂ key t₁ t₂
  have h₁ : parse e₁ = .ok t₁ := by
    rw [← toOption_eq_some]
    decide +kernel
  have h₂ : parse e₂ = .ok t₂ := by
    rw [← toOption_eq_some]
    decide +kernel
  have ht := (spell_canonical.2.1 e₁ t₁ h₁).1
  exact ⟨h₁, h₂, ht, spell_canonical.1 t₁ ht, spell_canonical.2.2 e₁ e₂ t₁ t₂ h₁ h₂⟩

end ProtoSchema.TypeExpr
