import ProtoSchema.Proofs.Results
import ProtoSchema.Proofs.Trimming
import ProtoSchema.TypeExpr.Parser

/-!
# The grammar of type expressions

The reader of type expressions takes a text apart from its ends: it trims, peels off a question
mark or a pair of outer brackets, and looks for the colon of a map with a count of brackets that
does not tell one kind from another. The grammar here knows nothing of that. The two agree on every
text (`parseChars_eq_ok_iff`).

* Soundness follows the recursion of the reader (`derives_of_parseChars`).
* Completeness rests on one property of derivable texts, `Sealed`: wherever they stand, a search
  for a colon passes over them as a whole.
-/

namespace ProtoSchema.TypeExpr

open Text

/-! ## The grammar -/

/-- A name: not empty, no white space at its ends, no white space of the plain kinds and no
punctuation of type expressions inside. -/
structure IsName (s : List Char) : Prop where
  nonempty : s ≠ []
  trimmed : Trimmed s
  plain : ∀ c ∈ s, c ∉ ['[', ']', '{', '}', ':', '?', ' ', '\t']

mutual

/-- The text spells the type, with white space around it. -/
inductive Derives : List Char → TypeExpr → Prop where
  | padded {v s w : List Char} {t : TypeExpr} :
      Blank v → DerivesCore s t → Blank w → Derives (v ++ s ++ w) t

/-- The text spells the type, from its first character to its last. -/
inductive DerivesCore : List Char → TypeExpr → Prop where
  | name {s : List Char} : IsName s → DerivesCore s (named (String.ofList s))
  | list {s : List Char} {t : TypeExpr} : Derives s t → DerivesCore ('[' :: s ++ [']']) (list t)
  | map {s₁ s₂ : List Char} {t₁ t₂ : TypeExpr} : Derives s₁ t₁ → Derives s₂ t₂ →
      DerivesCore ('{' :: (s₁ ++ ':' :: s₂) ++ ['}']) (map t₁ t₂)
  | optional {s : List Char} {t : TypeExpr} : Derives s t → DerivesCore (s ++ ['?']) (optional t)

end

theorem isReserved_eq_false {c : Char} :
    isReserved c = false ↔ c ∉ ['[', ']', '{', '}', ':', '?', ' ', '\t'] := by
  rw [isReserved, List.contains_eq_mem, decide_eq_false_iff_not]

/-! ## The branches of the reader -/

theorem parseChars_of_question {e s : List Char} (h : trim e = s ++ ['?']) :
    parseChars e = (parseChars s).map optional := by
  rw [parseChars]
  split
  · rename_i hnil
    rw [hnil] at h
    exact absurd h.symm (by simp)
  · rename_i c r hcons
    have hcr : c :: r = s ++ ['?'] := hcons.symm.trans h
    rw [hcr, List.getLast?_concat, if_pos rfl, List.dropLast_concat]

theorem parseChars_of_brackets {e s : List Char} (h : trim e = '[' :: s ++ [']']) :
    parseChars e = (parseChars s).map list := by
  rw [parseChars]
  split
  · rename_i hnil
    rw [hnil] at h
    exact absurd h.symm (by simp)
  · rename_i c r hcons
    obtain ⟨rfl, rfl⟩ : c = '[' ∧ r = s ++ [']'] := List.cons.inj (hcons.symm.trans h)
    have hlast : ('[' :: (s ++ [']'])).getLast? = some ']' := by
      rw [← List.cons_append, List.getLast?_concat]
    rw [hlast, if_neg (by decide), if_pos rfl, List.getLast?_concat, if_pos rfl,
      List.dropLast_concat]

theorem parseChars_of_braces {e s k v : List Char} {key : TypeExpr}
    (h : trim e = '{' :: s ++ ['}']) (hs : splitColon 0 s = some (k, v))
    (hk : parseChars k = .ok key) : parseChars e = (parseChars v).map (map key) := by
  rw [parseChars]
  split
  · rename_i hnil
    rw [hnil] at h
    exact absurd h.symm (by simp)
  · rename_i c r hcons
    obtain ⟨rfl, rfl⟩ : c = '{' ∧ r = s ++ ['}'] := List.cons.inj (hcons.symm.trans h)
    have hlast : ('{' :: (s ++ ['}'])).getLast? = some '}' := by
      rw [← List.cons_append, List.getLast?_concat]
    rw [hlast, if_neg (by decide), if_neg (by decide), if_pos rfl, List.getLast?_concat,
      if_pos rfl]
    split
    · rename_i hnone
      rw [List.dropLast_concat, hs] at hnone
      cases hnone
    · rename_i k' v' hsome
      rw [List.dropLast_concat, hs] at hsome
      cases hsome
      rw [hk]

theorem parseChars_of_name {e : List Char} (h : IsName (trim e)) :
    parseChars e = .ok (named (String.ofList (trim e))) := by
  rw [parseChars]
  split
  · rename_i hnil
    exact absurd hnil h.nonempty
  · rename_i c r hcons
    rw [hcons] at h
    have hlast : ¬ (c :: r).getLast? = some '?' := fun hq =>
      h.plain '?' (List.mem_of_getLast? hq) (by simp)
    have hopen : c ≠ '[' ∧ c ≠ '{' := by
      have hc := h.plain c (by simp)
      simp only [List.mem_cons, not_or] at hc
      exact ⟨hc.1, hc.2.2.1⟩
    have hany : ¬ (c :: r).any isReserved = true := by
      rw [List.any_eq_true]
      rintro ⟨d, hd, hr⟩
      rw [isReserved_eq_false.mpr (h.plain d hd)] at hr
      cases hr
    rw [if_neg hlast, if_neg hopen.1, if_neg hopen.2, if_neg hany, hcons]

/-! ## What is read can be derived -/

theorem splitColon_eq_append {depth : Int} {s k v : List Char}
    (h : splitColon depth s = some (k, v)) : s = k ++ ':' :: v := by
  induction s generalizing depth k v with
  | nil => cases h
  | cons c r ih =>
    unfold splitColon at h
    split at h
    · rename_i hc
      simp only [Bool.and_eq_true, beq_iff_eq] at hc
      cases h
      rw [hc.1]
      rfl
    · simp only [Option.map_eq_some_iff, Prod.mk.injEq, Prod.exists] at h
      obtain ⟨k', v', h', rfl, rfl⟩ := h
      rw [ih h']
      rfl

theorem Derives.of_trim {e : List Char} {t : TypeExpr} (h : DerivesCore (trim e) t) :
    Derives e t := by
  obtain ⟨v, w, hv, hw, he⟩ := exists_trim e
  rw [he]
  exact .padded hv h hw

theorem derives_of_parseChars {e : List Char} {t : TypeExpr} (h : parseChars e = .ok t) :
    Derives e t := by
  -- one case for each way through the reader; those that refuse have nothing to derive
  fun_induction parseChars e generalizing t with
  | case1 e hnil => cases h
  | case2 e c r hcons hlast ih =>
    -- a question mark at the end
    obtain ⟨s, hs⟩ := List.getLast?_eq_some_iff.mp hlast
    obtain ⟨u, hu, rfl⟩ := map_eq_ok.mp h
    rw [hs, List.dropLast_concat] at ih hu
    refine .of_trim ?_
    rw [hcons, hs]
    exact .optional (ih hu)
  | case3 e r hlast hcons hq ih =>
    -- square brackets
    obtain ⟨s, rfl⟩ := List.getLast?_eq_some_iff.mp hlast
    obtain ⟨u, hu, rfl⟩ := map_eq_ok.mp h
    rw [List.dropLast_concat] at ih hu
    refine .of_trim ?_
    rw [hcons]
    exact .list (ih hu)
  | case4 e r hlast hcons hq => cases h
  | case5 e r hlast hcons hcolon hq hb => cases h
  | case6 e r hlast k v hcolon err hk hcons hq hb ihk => cases h
  | case7 e r hlast k v hcolon key hk hcons hq hb ihk ihv =>
    -- braces with a colon that splits them, and a key that could be read
    obtain ⟨s, rfl⟩ := List.getLast?_eq_some_iff.mp hlast
    obtain ⟨u, hu, rfl⟩ := map_eq_ok.mp h
    rw [List.dropLast_concat] at hcolon
    refine .of_trim ?_
    rw [hcons, splitColon_eq_append hcolon]
    exact .map (ihk hk) (ihv hu)
  | case8 e r hlast hcons hq hb => cases h
  | case9 e c r hcons hq hb hc hany => cases h
  | case10 e c r hcons hq hb hc hany =>
    -- none of these, and no character that a name may not have
    cases h
    refine .of_trim ?_
    rw [hcons]
    refine .name ⟨List.cons_ne_nil c r, hcons ▸ trimmed_trim e, fun d hd => ?_⟩
    rw [← isReserved_eq_false, ← Bool.not_eq_true]
    exact fun hr => hany (List.any_eq_true.mpr ⟨d, hd, hr⟩)

/-! ## Derivable texts hide their colons -/

/-- A search for a colon that comes to the text at a depth of `least` or more passes over all of it
and goes on at the same depth. -/
def Sealed (least : Int) (s : List Char) : Prop :=
  ∀ (depth : Int) (rest : List Char), least ≤ depth →
    splitColon depth (s ++ rest) = (splitColon depth rest).map fun kv => (s ++ kv.1, kv.2)

theorem splitColon_cons {depth : Int} {c : Char} (h : ¬ (c = ':' ∧ depth = 0)) (s : List Char) :
    splitColon depth (c :: s) =
      (splitColon (depth + depthChange c) s).map fun kv => (c :: kv.1, kv.2) := by
  rw [splitColon, if_neg (by simpa using h)]

theorem Sealed.mono {m n : Int} {s : List Char} (h : Sealed m s) (hmn : m ≤ n) : Sealed n s :=
  fun depth rest hd => h depth rest (by omega)

theorem Sealed.append {n : Int} {s t : List Char} (hs : Sealed n s) (ht : Sealed n t) :
    Sealed n (s ++ t) := by
  intro depth rest hd
  rw [List.append_assoc, hs depth (t ++ rest) hd, ht depth rest hd, Option.map_map]
  simp only [Function.comp_def, List.append_assoc]

/-- Characters that are no colon and no bracket are passed over at any depth. -/
theorem sealed_of_neutral {n : Int} {s : List Char}
    (h : ∀ c ∈ s, c ≠ ':' ∧ depthChange c = 0) : Sealed n s := by
  intro depth rest hd
  induction s with
  | nil => simp
  | cons c s ih =>
    obtain ⟨hc, hz⟩ := h c (by simp)
    rw [List.cons_append, splitColon_cons (fun hcd => hc hcd.1), hz, Int.add_zero,
      ih (fun d hd => h d (by simp [hd])), Option.map_map]
    rfl

/-- Brackets seal what is sealed one level deeper. -/
theorem Sealed.enclosed {n : Int} {s : List Char} {a b : Char} (hs : Sealed (n + 1) s)
    (ha : depthChange a = 1 ∧ a ≠ ':') (hb : depthChange b = -1 ∧ b ≠ ':') :
    Sealed n (a :: s ++ [b]) := by
  intro depth rest hd
  have hback : depth + 1 + -1 = depth := by omega
  rw [List.append_assoc, List.cons_append, splitColon_cons (fun h => ha.2 h.1), ha.1,
    hs (depth + 1) _ (by omega), List.singleton_append, splitColon_cons (fun h => hb.2 h.1), hb.1,
    hback, Option.map_map, Option.map_map]
  simp [Function.comp_def]

theorem sealed_colon : Sealed 1 [':'] := by
  intro depth rest hd
  have hcolon : depthChange ':' = 0 := by decide
  rw [List.singleton_append, splitColon_cons (fun h => by omega), hcolon, Int.add_zero]
  rfl

theorem neutral_of_ne {c : Char} (h : c ∉ ['[', ']', '{', '}', ':']) :
    c ≠ ':' ∧ depthChange c = 0 := by
  simp only [List.mem_cons, List.not_mem_nil, or_false, not_or] at h
  obtain ⟨h₁, h₂, h₃, h₄, h₅⟩ := h
  exact ⟨h₅, by simp [depthChange, h₁, h₂, h₃, h₄]⟩

theorem sealed_blank {n : Int} {s : List Char} (h : Blank s) : Sealed n s := by
  refine sealed_of_neutral fun c hc => neutral_of_ne fun hmem => ?_
  have hspace := h c hc
  simp only [List.mem_cons, List.not_mem_nil, or_false] at hmem
  rcases hmem with rfl | rfl | rfl | rfl | rfl
  all_goals exact absurd hspace (by decide)

theorem IsName.sealed {n : Int} {s : List Char} (h : IsName s) : Sealed n s := by
  refine sealed_of_neutral fun c hc => neutral_of_ne fun hmem => h.plain c hc ?_
  have hsub : ['[', ']', '{', '}', ':'] ⊆ ['[', ']', '{', '}', ':', '?', ' ', '\t'] := by decide
  exact hsub hmem

mutual

theorem Derives.sealed {s : List Char} {t : TypeExpr} : Derives s t → Sealed 0 s
  | .padded hv hs hw => ((sealed_blank hv).append hs.sealed).append (sealed_blank hw)

theorem DerivesCore.sealed {s : List Char} {t : TypeExpr} : DerivesCore s t → Sealed 0 s
  | .name hs => hs.sealed
  | .list hs => (hs.sealed.mono (by omega)).enclosed (by decide) (by decide)
  | .map hs₁ hs₂ => by
    -- inside the braces the colon is not at the top, so it is passed over like the rest
    have hinner := (hs₁.sealed.mono (by omega)).append
      (sealed_colon.append (hs₂.sealed.mono (by omega)))
    exact Sealed.enclosed hinner (by decide) (by decide)
  | .optional hs => by
    refine hs.sealed.append (sealed_of_neutral fun c hc => neutral_of_ne ?_)
    rw [List.mem_singleton.mp hc]
    decide

end

/-- A key is found whole, whatever colons it has inside. -/
theorem splitColon_of_derives {s₁ : List Char} {t₁ : TypeExpr} (h : Derives s₁ t₁)
    (s₂ : List Char) : splitColon 0 (s₁ ++ ':' :: s₂) = some (s₁, s₂) := by
  rw [h.sealed 0 (':' :: s₂) (Int.le_refl 0)]
  simp [splitColon]

/-! ## What can be derived is read -/

mutual

/-- White space outside may differ: under a question mark the reader has trimmed one end only. -/
theorem Derives.parseChars_eq {s : List Char} {t : TypeExpr} :
    Derives s t → ∀ e, trim e = trim s → parseChars e = .ok t
  | .padded hv hs hw, e, he => hs.parseChars_eq e (he.trans (trim_blank_append hv hw _))

theorem DerivesCore.parseChars_eq {s : List Char} {t : TypeExpr} :
    DerivesCore s t → ∀ e, trim e = trim s → parseChars e = .ok t
  | .name hs, e, he => by
    rw [hs.trimmed.trim_eq] at he
    rw [parseChars_of_name (he ▸ hs), he]
  | .list hs, e, he => by
    rw [(trimmed_enclosed (by decide) (by decide) _).trim_eq] at he
    rw [parseChars_of_brackets he, hs.parseChars_eq _ rfl]
    rfl
  | .map hs₁ hs₂, e, he => by
    rw [(trimmed_enclosed (by decide) (by decide) _).trim_eq] at he
    rw [parseChars_of_braces he (splitColon_of_derives hs₁ _) (hs₁.parseChars_eq _ rfl),
      hs₂.parseChars_eq _ rfl]
    rfl
  | .optional hs, e, he => by
    rw [trim_concat (by decide)] at he
    rw [parseChars_of_question he, hs.parseChars_eq _ (trim_trimStart _)]
    rfl

end

theorem parseChars_eq_ok_iff {e : List Char} {t : TypeExpr} :
    parseChars e = .ok t ↔ Derives e t :=
  ⟨derives_of_parseChars, fun h => h.parseChars_eq e rfl⟩

/-- Reading gives a type exactly if the text derives it. So no text derives two types, and the texts
that derive none are the ones that are refused. -/
theorem parse_eq_ok_iff_derives (e : String) :
    (∀ t, parse e = .ok t ↔ Derives e.toList t) ∧
      (∀ t u, Derives e.toList t → Derives e.toList u → t = u) ∧
      ((∃ err, parse e = .error err) ↔ ¬ ∃ t, Derives e.toList t) := by
  have hiff : ∀ t, parse e = .ok t ↔ Derives e.toList t := fun t => parseChars_eq_ok_iff
  refine ⟨hiff, ?_, ?_⟩
  · intro t u ht hu
    exact Except.ok.inj (((hiff t).mpr ht).symm.trans ((hiff u).mpr hu))
  · simp only [← hiff]
    cases parse e with
    | error err => simp
    | ok t => simp

/-- A key that is itself a map in brackets, white space around every part. -/
theorem parse_eq_ok_iff_derives_nested :
    let e := " \x7b [\x7ba:b\x7d?] :\tc? \x7d ?"
    let t := optional (map (list (optional (map (named "a") (named "b")))) (optional (named "c")))
    parse e = .ok t ∧ Derives e.toList t ∧ ∀ u, Derives e.toList u → t = u := by
  intro e t
  have hparse : parse e = .ok t := by
    rw [← toOption_eq_some]
    decide +kernel
  have hderives := ((parse_eq_ok_iff_derives e).1 t).mp hparse
  exact ⟨hparse, hderives, fun u hu => (parse_eq_ok_iff_derives e).2.1 t u hderives hu⟩

end ProtoSchema.TypeExpr
