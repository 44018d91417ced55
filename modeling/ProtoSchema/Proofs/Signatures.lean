import ProtoSchema.Proofs.Resolution

/-!
# Signatures tell types apart

A signature is a flat text: words, and between them spaces, commas and angle brackets. If no name
holds one of these, a signature is read in one way only, and two types with one signature differ at
most in which of several schema names of a scalar they use (`signature_eq_iff`).

A signature starts with a word, and what follows the word says what kind of type it is: a space
after the label of a list or an optional type, a bracket after `map`, and after a name the end of the
signature, a comma or a closing bracket. So two signatures that start the same text are the same,
and end at the same place (`layout_inj`).
-/

namespace ProtoSchema

/-! ## Names -/

/-- Whether the character stands between the words of a signature. -/
def isDelimiter (c : Char) : Bool := [' ', ',', '<', '>'].contains c

/-- A name that is one word of a signature. -/
def IsSolid (name : String) : Prop := name.toList.any isDelimiter = false

instance (name : String) : Decidable (IsSolid name) :=
  inferInstanceAs (Decidable (_ = false))

theorem protoName_eq_or_mem (name : String) :
    protoName name = name ∨ protoName name ∈ scalarNames.map Prod.snd := by
  unfold protoName
  cases hlookup : scalarNames.lookup name with
  | none => exact .inl rfl
  | some spelling =>
    right
    obtain ⟨before, after, hsplit, -⟩ := List.lookup_eq_some_iff.mp hlookup
    rw [hsplit]
    simp

/-- Proto3 spells a name with one word if it was one. -/
theorem IsSolid.protoName {name : String} (h : IsSolid name) : IsSolid (protoName name) := by
  have hscalars : ∀ spelling ∈ scalarNames.map Prod.snd, IsSolid spelling := by decide +kernel
  rcases protoName_eq_or_mem name with heq | hmem
  · rwa [heq]
  · exact hscalars _ hmem

namespace TypeExpr

/-! ## Types by their names -/

/-- The type is made of names, lists, maps and optional types, and its names have a property. -/
def MadeOf (p : String → Prop) : TypeExpr → Prop
  | named name => p name
  | list element => element.MadeOf p
  | map key value => key.MadeOf p ∧ value.MadeOf p
  | optional inner => inner.MadeOf p
  | absent => False
  | foreign _ => False

/-- The type with other names. -/
def rename (f : String → String) : TypeExpr → TypeExpr
  | named name => named (f name)
  | list element => list (element.rename f)
  | map key value => map (key.rename f) (value.rename f)
  | optional inner => optional (inner.rename f)
  | absent => absent
  | foreign type => foreign type

theorem MadeOf.resolvable {p : String → Prop} {t : TypeExpr} (h : t.MadeOf p) : t.Resolvable := by
  induction t with
  | named name => trivial
  | list element ih => exact ih h
  | map key value ihk ihv => exact ⟨ihk h.1, ihv h.2⟩
  | optional inner ih => exact ih h
  | absent => exact h
  | foreign type => exact h

theorem MadeOf.rename {p q : String → Prop} {f : String → String} (hf : ∀ {n}, p n → q (f n))
    {t : TypeExpr} (h : t.MadeOf p) : (t.rename f).MadeOf q := by
  induction t with
  | named name => exact hf h
  | list element ih => exact ih h
  | map key value ihk ihv => exact ⟨ihk h.1, ihv h.2⟩
  | optional inner ih => exact ih h
  | absent => exact h
  | foreign type => exact h

/-! ## Signatures as texts -/

/-- The word that a signature starts with. -/
def firstWord : TypeExpr → String
  | named name => name
  | list _ => "repeated"
  | map _ _ => "map"
  | optional _ => "optional"
  | absent => ""
  | foreign _ => ""

/-- What follows the first word of a signature, if `rest` follows the signature. Names are taken to
be spelled as proto3 has them. -/
def afterWord : TypeExpr → List Char → List Char
  | named _, rest => rest
  | list element, rest => ' ' :: (element.firstWord.toList ++ element.afterWord rest)
  | map key value, rest =>
    '<' :: (key.firstWord.toList ++ key.afterWord
      (',' :: ' ' :: (value.firstWord.toList ++ value.afterWord ('>' :: rest))))
  | optional inner, rest => ' ' :: (inner.firstWord.toList ++ inner.afterWord rest)
  | absent, rest => rest
  | foreign _, rest => rest

/-- A signature and the text that follows it. -/
def layout (t : TypeExpr) (rest : List Char) : List Char := t.firstWord.toList ++ t.afterWord rest

theorem toList_protoText_append (t : TypeExpr) (rest : List Char) :
    t.protoText.toList ++ rest = (t.rename protoName).layout rest := by
  induction t generalizing rest with
  | named name => rfl
  | list element ih =>
    have hlabel : "repeated ".toList = "repeated".toList ++ [' '] := by decide +kernel
    rw [protoText, String.toList_append, List.append_assoc, ih, hlabel, List.append_assoc]
    rfl
  | map key value ihk ihv =>
    have hlabel : "map<".toList = "map".toList ++ ['<'] := by decide +kernel
    have hcomma : ", ".toList = [',', ' '] := by decide +kernel
    have hclose : ">".toList = ['>'] := by decide +kernel
    simp only [protoText, String.toList_append, List.append_assoc, hlabel, hcomma, hclose]
    rw [ihv, ihk]
    rfl
  | optional inner ih =>
    have hlabel : "optional ".toList = "optional".toList ++ [' '] := by decide +kernel
    rw [protoText, String.toList_append, List.append_assoc, ih, hlabel, List.append_assoc]
    rfl
  | absent => rfl
  | foreign type => rfl

/-- What can follow a signature: nothing, or what goes on with the map in which it stands. -/
def Closes (rest : List Char) : Prop := ∀ c ∈ rest.head?, c = ',' ∨ c = '>'

theorem closes_nil : Closes [] := by
  intro c hc
  cases hc

theorem closes_comma (rest : List Char) : Closes (',' :: rest) := by
  intro c hc
  cases hc
  exact .inl rfl

theorem closes_bracket (rest : List Char) : Closes ('>' :: rest) := by
  intro c hc
  cases hc
  exact .inr rfl

theorem Closes.isDelimiter {rest : List Char} (h : Closes rest) :
    ∀ c ∈ rest.head?, isDelimiter c = true := by
  intro c hc
  rcases h c hc with rfl | rfl
  · rfl
  · rfl

theorem Closes.ne_space {rest : List Char} (h : Closes rest) (more : List Char) :
    rest ≠ ' ' :: more := by
  rintro rfl
  exact absurd (h ' ' rfl) (by decide)

theorem Closes.ne_bracket {rest : List Char} (h : Closes rest) (more : List Char) :
    rest ≠ '<' :: more := by
  rintro rfl
  exact absurd (h '<' rfl) (by decide)

theorem isSolid_firstWord {t : TypeExpr} (h : t.MadeOf IsSolid) : IsSolid t.firstWord := by
  cases t with
  | named name => exact h
  | list element => exact (by decide +kernel : IsSolid "repeated")
  | map key value => exact (by decide +kernel : IsSolid "map")
  | optional inner => exact (by decide +kernel : IsSolid "optional")
  | absent => exact h.elim
  | foreign type => exact h.elim

theorem isDelimiter_of_mem_head_afterWord {rest : List Char} (hrest : Closes rest) (t : TypeExpr) :
    ∀ c ∈ (t.afterWord rest).head?, isDelimiter c = true := by
  cases t with
  | list element => rintro c ⟨⟩; rfl
  | map key value => rintro c ⟨⟩; rfl
  | optional inner => rintro c ⟨⟩; rfl
  | named name => exact hrest.isDelimiter
  | absent => exact hrest.isDelimiter
  | foreign type => exact hrest.isDelimiter

theorem takeWhile_solid {w : String} {rest : List Char} (hw : IsSolid w)
    (hrest : ∀ c ∈ rest.head?, isDelimiter c = true) :
    (w.toList ++ rest).takeWhile (! isDelimiter ·) = w.toList := by
  have hplain : ∀ c ∈ w.toList, (! isDelimiter c) = true := by
    simpa using List.any_eq_false.mp hw
  rw [List.takeWhile_append_of_pos hplain]
  cases rest with
  | nil => simp
  | cons c rest => simp [hrest c rfl]

/-- The first word of a signature and what follows it are determined by the text. -/
theorem firstWord_inj {t u : TypeExpr} (ht : t.MadeOf IsSolid) (hu : u.MadeOf IsSolid)
    {rest more : List Char} (hrest : Closes rest) (hmore : Closes more)
    (h : t.layout rest = u.layout more) :
    t.firstWord = u.firstWord ∧ t.afterWord rest = u.afterWord more := by
  unfold layout at h
  have hword : t.firstWord = u.firstWord := by
    rw [← String.toList_inj,
      ← takeWhile_solid (isSolid_firstWord ht) (isDelimiter_of_mem_head_afterWord hrest t), h,
      takeWhile_solid (isSolid_firstWord hu) (isDelimiter_of_mem_head_afterWord hmore u)]
  rw [hword] at h
  exact ⟨hword, List.append_cancel_left h⟩

/-- Two signatures that start one text are the signatures of one type, and what follows them is the
same. -/
theorem layout_inj {t u : TypeExpr} (ht : t.MadeOf IsSolid) (hu : u.MadeOf IsSolid)
    {rest more : List Char} (hrest : Closes rest) (hmore : Closes more)
    (h : t.layout rest = u.layout more) : t = u ∧ rest = more := by
  induction t generalizing u rest more with
  | named name =>
    obtain ⟨hword, hafter⟩ := firstWord_inj ht hu hrest hmore h
    cases u with
    | named other => exact ⟨congrArg named hword, hafter⟩
    | list element => exact absurd hafter (hrest.ne_space _)
    | map key value => exact absurd hafter (hrest.ne_bracket _)
    | optional inner => exact absurd hafter (hrest.ne_space _)
    | absent => exact hu.elim
    | foreign type => exact hu.elim
  | list element ih =>
    obtain ⟨hword, hafter⟩ := firstWord_inj (t := list element) ht hu hrest hmore h
    cases u with
    | named other => exact absurd hafter.symm (hmore.ne_space _)
    | list element' =>
      obtain ⟨rfl, hends⟩ := ih (u := element') ht hu hrest hmore (List.cons.inj hafter).2
      exact ⟨rfl, hends⟩
    | map key value => exact absurd (List.cons.inj hafter).1 (by decide)
    | optional inner => exact absurd hword (by decide +kernel : "repeated" ≠ "optional")
    | absent => exact hu.elim
    | foreign type => exact hu.elim
  | map key value ihk ihv =>
    obtain ⟨hword, hafter⟩ := firstWord_inj (t := map key value) ht hu hrest hmore h
    cases u with
    | named other => exact absurd hafter.symm (hmore.ne_bracket _)
    | list element => exact absurd (List.cons.inj hafter).1 (by decide)
    | map key' value' =>
      obtain ⟨rfl, hvalue⟩ := ihk ht.1 hu.1 (closes_comma _) (closes_comma _) (List.cons.inj hafter).2
      obtain ⟨rfl, hends⟩ := ihv ht.2 hu.2 (closes_bracket _) (closes_bracket _)
        (List.cons.inj (List.cons.inj hvalue).2).2
      exact ⟨rfl, (List.cons.inj hends).2⟩
    | optional inner => exact absurd (List.cons.inj hafter).1 (by decide)
    | absent => exact hu.elim
    | foreign type => exact hu.elim
  | optional inner ih =>
    obtain ⟨hword, hafter⟩ := firstWord_inj (t := optional inner) ht hu hrest hmore h
    cases u with
    | named other => exact absurd hafter.symm (hmore.ne_space _)
    | list element => exact absurd hword (by decide +kernel : "optional" ≠ "repeated")
    | map key value => exact absurd (List.cons.inj hafter).1 (by decide)
    | optional inner' =>
      obtain ⟨rfl, hends⟩ := ih (u := inner') ht hu hrest hmore (List.cons.inj hafter).2
      exact ⟨rfl, hends⟩
    | absent => exact hu.elim
    | foreign type => exact hu.elim
  | absent => exact ht.elim
  | foreign type => exact ht.elim

theorem protoText_eq_iff {t u : TypeExpr} (ht : t.MadeOf IsSolid) (hu : u.MadeOf IsSolid) :
    t.protoText = u.protoText ↔ t.rename protoName = u.rename protoName := by
  rw [← String.toList_inj, ← List.append_nil t.protoText.toList,
    ← List.append_nil u.protoText.toList, toList_protoText_append, toList_protoText_append]
  constructor
  · intro h
    exact (layout_inj (ht.rename IsSolid.protoName) (hu.rename IsSolid.protoName) closes_nil
      closes_nil h).1
  · intro h
    rw [h]

/-- Signatures tell types apart. Types made of names, lists, maps and optional types, in which every
name is free of spaces, commas and angle brackets, have signatures, and these are the same exactly
if the types are the same once every schema name of a scalar is spelled as proto3 has it. -/
theorem signature_eq_iff {t u : TypeExpr} (ht : t.MadeOf IsSolid) (hu : u.MadeOf IsSolid) :
    ∃ v w, t.signature = .ok v ∧ u.signature = .ok w ∧
      (v = w ↔ t.rename protoName = u.rename protoName) :=
  ⟨t.protoText, u.protoText, signature_eq_ok.mpr ⟨ht.resolvable, rfl⟩,
    signature_eq_ok.mpr ⟨hu.resolvable, rfl⟩, protoText_eq_iff ht hu⟩

/-- The labels are names too: a list of `map`s is not a map. Two schema names of one scalar give one
signature. -/
theorem signature_eq_iff_labels :
    let t := map (list (named "map")) (optional (map (named "i8") (named "optional")))
    let u := map (list (named "map")) (optional (map (named "i32") (named "optional")))
    t.MadeOf IsSolid ∧ u.MadeOf IsSolid ∧
      t.signature = .ok "map<repeated map, optional map<int32, optional>>" ∧
      u.signature = .ok "map<repeated map, optional map<int32, optional>>" ∧
      t.rename protoName = u.rename protoName := by
  intro t u
  have hsolid : ∀ name ∈ ["map", "i8", "i32", "optional"], IsSolid name := by decide +kernel
  have ht : t.MadeOf IsSolid := ⟨hsolid _ (by simp), hsolid _ (by simp), hsolid _ (by simp)⟩
  have hu : u.MadeOf IsSolid := ⟨hsolid _ (by simp), hsolid _ (by simp), hsolid _ (by simp)⟩
  have htext : t.signature = .ok "map<repeated map, optional map<int32, optional>>" :=
    toOption_eq_some.mp (by decide +kernel)
  have hutext : u.signature = .ok "map<repeated map, optional map<int32, optional>>" :=
    toOption_eq_some.mp (by decide +kernel)
  obtain ⟨v, w, hv, hw, hiff⟩ := signature_eq_iff ht hu
  rw [htext] at hv
  rw [hutext] at hw
  cases hv
  cases hw
  exact ⟨ht, hu, htext, hutext, hiff.mp rfl⟩

end TypeExpr

end ProtoSchema
