import ProtoSchema.Proofs.Results
import ProtoSchema.Proto.Output

/-!
# Outputs one after another

The algebra of outputs. The empty output is the unit of sequencing, and a failure hides all that
comes after it, so that

* the failure of a sequence is the first failure of its members (`failure_all`);
* a sequence makes the requests of its members in order, all of them unless it fails
  (`Makes.all`);
* what was logged has no influence on anything else (`silent_andThen`, `silent_all`), and what is
  queued has none on what can be seen (`visible_andThen`);
* a sequence that does not fail writes what its members write, in order (`writes_all`);
* a sequence comes to each of its members unless one before it fails (`Reaches.all`).

Everything that is proved about a rendering goes through these facts.
-/

namespace ProtoSchema.Proto.Output

variable {ε δ α β : Type}

/-! ## Sequencing -/

theorem andThen_of_failure {a : Output ε} {e : ε} (h : a.failure = some e) (b : Output ε) :
    a.andThen b = a := by
  simp only [andThen, h]

theorem andThen_of_ok {a : Output ε} (h : a.failure = none) (b : Output ε) :
    a.andThen b = ⟨a.lines ++ b.lines, a.requests ++ b.requests, a.log ++ b.log, b.failure⟩ := by
  simp only [andThen, h]

/-- What follows matters only after a success. -/
theorem andThen_congr_right {a b c : Output ε} (h : a.failure = none → b = c) :
    a.andThen b = a.andThen c := by
  cases ha : a.failure with
  | some e => rw [andThen_of_failure ha, andThen_of_failure ha]
  | none => rw [h ha]

@[simp] theorem empty_andThen (a : Output ε) : empty.andThen a = a := rfl

@[simp] theorem andThen_empty (a : Output ε) : a.andThen empty = a := by
  cases h : a.failure with
  | some e => exact andThen_of_failure h empty
  | none =>
    rw [andThen_of_ok h]
    simp only [empty, List.append_nil]
    rw [← h]

theorem andThen_assoc (a b c : Output ε) :
    (a.andThen b).andThen c = a.andThen (b.andThen c) := by
  cases ha : a.failure with
  | some e =>
    rw [andThen_of_failure ha, andThen_of_failure ha, andThen_of_failure ha]
  | none =>
    cases hb : b.failure with
    | some e =>
      rw [andThen_of_failure hb, andThen_of_failure]
      rw [andThen_of_ok ha, hb]
    | none =>
      have hab : (a.andThen b).failure = none := by rw [andThen_of_ok ha, hb]
      rw [andThen_of_ok hab, andThen_of_ok ha, andThen_of_ok ha, andThen_of_ok hb]
      simp only [List.append_assoc]

@[simp] theorem all_nil (f : α → Output ε) : all f [] = empty := rfl

@[simp] theorem all_cons (f : α → Output ε) (a : α) (as : List α) :
    all f (a :: as) = (f a).andThen (all f as) := rfl

@[simp] theorem sequence_nil : sequence ([] : List (Output ε)) = empty := rfl

@[simp] theorem sequence_cons (a : Output ε) (as : List (Output ε)) :
    sequence (a :: as) = a.andThen (sequence as) := rfl

theorem all_append (f : α → Output ε) (l m : List α) :
    all f (l ++ m) = (all f l).andThen (all f m) := by
  induction l with
  | nil => rfl
  | cons a as ih => rw [List.cons_append, all_cons, all_cons, ih, andThen_assoc]

theorem all_map (f : β → Output ε) (g : α → β) (l : List α) :
    all f (l.map g) = all (fun a => f (g a)) l := by
  induction l with
  | nil => rfl
  | cons a as ih => rw [List.map_cons, all_cons, all_cons, ih]

/-- Leaving members out is giving nothing for them. -/
theorem all_filter (p : α → Bool) (f : α → Output ε) (l : List α) :
    all f (l.filter p) = all (fun a => if p a then f a else empty) l := by
  induction l with
  | nil => rfl
  | cons a as ih =>
    rw [List.filter_cons, all_cons, ← ih]
    by_cases h : p a = true
    · rw [if_pos h, if_pos h, all_cons]
    · rw [if_neg h, if_neg h, empty_andThen]

theorem all_congr {f g : α → Output ε} {l : List α} (h : ∀ a ∈ l, f a = g a) :
    all f l = all g l := by
  induction l with
  | nil => rfl
  | cons a as ih =>
    rw [all_cons, all_cons, h a (by simp), ih (fun b hb => h b (by simp [hb]))]

/-- What is done to outputs one by one can be done to the members of a list. -/
theorem all_of_andThen {h : Output ε → Output δ} (hempty : h empty = empty)
    (handThen : ∀ a b, h (a.andThen b) = (h a).andThen (h b)) (f : α → Output ε) (l : List α) :
    h (all f l) = all (fun a => h (f a)) l := by
  induction l with
  | nil => exact hempty
  | cons a as ih => rw [all_cons, all_cons, handThen, ih]

/-- What looks the same one by one looks the same one after another, to an observer who sees
outputs one by one. -/
theorem sequence_congr {h : Output ε → Output δ}
    (handThen : ∀ a b, h (a.andThen b) = (h a).andThen (h b)) {as bs : List (Output ε)}
    (hab : List.Forall₂ (fun a b => h a = h b) as bs) : h (sequence as) = h (sequence bs) := by
  induction hab with
  | nil => rfl
  | cons hab _ ih => rw [sequence_cons, sequence_cons, handThen, handThen, hab, ih]

/-! ## The first failure -/

theorem failure_andThen (a b : Output ε) : (a.andThen b).failure = a.failure.or b.failure := by
  cases h : a.failure with
  | some e => rw [andThen_of_failure h, h]; rfl
  | none => rw [andThen_of_ok h]; rfl

/-- A sequence fails as the first of its members that fails. -/
theorem failure_all (f : α → Output ε) (l : List α) :
    (all f l).failure = l.findSome? fun a => (f a).failure := by
  induction l with
  | nil => rfl
  | cons a as ih =>
    rw [all_cons, failure_andThen, ih, List.findSome?_cons]
    cases (f a).failure <;> rfl

/-- The first hit in a list of lists is the first hit of the first list that has one. -/
theorem findSome?_flatMap (p : β → Option δ) (g : α → List β) (l : List α) :
    (l.flatMap g).findSome? p = l.findSome? fun a => (g a).findSome? p := by
  induction l with
  | nil => rfl
  | cons a as ih =>
    rw [List.flatMap_cons, List.findSome?_append, ih, List.findSome?_cons]
    cases (g a).findSome? p <;> rfl

@[simp] theorem failure_mapFailure (f : ε → δ) (a : Output ε) :
    (a.mapFailure f).failure = a.failure.map f := rfl

@[simp] theorem failure_line (l : String) : (line l : Output ε).failure = none := rfl

@[simp] theorem failure_comment (lead text : String) :
    (comment lead text : Output ε).failure = none := rfl

/-- A step that needs a result fails with the error in its place, or else as what follows; that
must not depend on the result. -/
theorem failure_withResult {f : α → Output ε} {later : Option ε} (h : ∀ a, (f a).failure = later)
    (r : Except ε α) : (withResult r f).failure = (errorOf r).or later := by
  cases r with
  | error e => rfl
  | ok a => exact h a

theorem failure_withResult_of_none {f : α → Output ε} (h : ∀ a, (f a).failure = none)
    (r : Except ε α) : (withResult r f).failure = errorOf r := by
  rw [failure_withResult h, Option.or_none]

/-! ## Requests -/

/-- The output makes these requests: all of them in this order, or the first few before a
failure. -/
structure Makes (a : Output ε) (l : List TypeDef) : Prop where
  initial : a.requests <+: l
  complete : a.failure = none → a.requests = l

theorem Makes.of_eq {a : Output ε} {l : List TypeDef} (h : a.requests = l) : a.Makes l :=
  ⟨h ▸ List.prefix_refl l, fun _ => h⟩

theorem Makes.mapFailure {a : Output ε} {l : List TypeDef} (h : a.Makes l) (f : ε → δ) :
    (a.mapFailure f).Makes l :=
  ⟨h.initial, fun hn => h.complete (Option.map_eq_none_iff.mp hn)⟩

theorem Makes.andThen {a b : Output ε} {l m : List TypeDef} (ha : a.Makes l) (hb : b.Makes m) :
    (a.andThen b).Makes (l ++ m) := by
  cases h : a.failure with
  | some e =>
    -- `b` never runs, so only the first requests of `l` are made
    rw [andThen_of_failure h]
    refine ⟨ha.initial.trans (List.prefix_append l m), fun hn => ?_⟩
    rw [h] at hn
    cases hn
  | none =>
    rw [andThen_of_ok h, ha.complete h]
    refine ⟨(List.prefix_append_right_inj l).mpr hb.initial, fun hn => ?_⟩
    exact congrArg (l ++ ·) (hb.complete hn)

/-- A sequence makes the requests of its members, in order. -/
theorem Makes.all {f : α → Output ε} {g : α → List TypeDef} {l : List α}
    (h : ∀ a ∈ l, (f a).Makes (g a)) : (all f l).Makes (l.flatMap g) := by
  induction l with
  | nil => exact .of_eq rfl
  | cons a as ih =>
    rw [all_cons, List.flatMap_cons]
    exact (h a (by simp)).andThen (ih fun b hb => h b (by simp [hb]))

theorem requests_andThen {a : Output ε} (h : a.failure = none) (b : Output ε) :
    (a.andThen b).requests = a.requests ++ b.requests := by
  rw [andThen_of_ok h]

/-- What makes no request adds none, however it ends. -/
theorem requests_andThen_of_nil {b : Output ε} (hb : b.requests = []) (a : Output ε) :
    (a.andThen b).requests = a.requests := by
  cases h : a.failure with
  | some e => rw [andThen_of_failure h]
  | none => rw [requests_andThen h, hb, List.append_nil]

theorem requests_all_of_nil {f : α → Output ε} {l : List α} (h : ∀ a ∈ l, (f a).requests = []) :
    (all f l).requests = [] := by
  induction l with
  | nil => rfl
  | cons a as ih =>
    rw [all_cons, requests_andThen_of_nil (ih fun b hb => h b (by simp [hb])), h a (by simp)]

theorem requests_withResult_of_nil {f : α → Output ε} (h : ∀ a, (f a).requests = [])
    (r : Except ε α) : (withResult r f).requests = [] := by
  cases r with
  | error e => rfl
  | ok a => exact h a

@[simp] theorem requests_mapFailure (f : ε → δ) (a : Output ε) :
    (a.mapFailure f).requests = a.requests := rfl

/-! ## Without the log -/

/-- The output with an empty log. -/
def silent (a : Output ε) : Output ε := { a with log := [] }

theorem silent_andThen (a b : Output ε) : (a.andThen b).silent = a.silent.andThen b.silent := by
  cases h : a.failure with
  | some e => rw [andThen_of_failure h, andThen_of_failure (show a.silent.failure = some e from h)]
  | none =>
    rw [andThen_of_ok h, andThen_of_ok (show a.silent.failure = none from h)]
    rfl

theorem silent_all (f : α → Output ε) (l : List α) :
    (all f l).silent = all (fun a => (f a).silent) l :=
  all_of_andThen rfl silent_andThen f l

@[simp] theorem silent_event (e : Event) : (event e : Output ε).silent = empty := rfl

/-- Members that are only logged as skipped could as well not be there. -/
theorem silent_all_skip (p : α → Bool) (f : α → Output ε) (e : α → Event) (l : List α) :
    (all (fun a => if p a then f a else event (e a)) l).silent = (all f (l.filter p)).silent := by
  rw [silent_all, silent_all, all_filter]
  refine all_congr fun a _ => ?_
  by_cases h : p a = true
  · rw [if_pos h, if_pos h]
  · rw [if_neg h, if_neg h, silent_event]

/-- Outputs that agree without their logs agree in everything but the log. -/
theorem eq_of_silent_eq {a b : Output ε} (h : a.silent = b.silent) :
    a.lines = b.lines ∧ a.requests = b.requests ∧ a.failure = b.failure := by
  simp only [silent, mk.injEq, true_and] at h
  exact h

theorem failure_all_skip (p : α → Bool) (f : α → Output ε) (e : α → Event) (l : List α) :
    (all (fun a => if p a then f a else event (e a)) l).failure =
      (l.filter p).findSome? fun a => (f a).failure := by
  rw [(eq_of_silent_eq (silent_all_skip p f e l)).2.2, failure_all]

theorem Makes.of_silent_eq {a b : Output ε} {l : List TypeDef} (ha : a.Makes l)
    (h : b.silent = a.silent) : b.Makes l := by
  obtain ⟨-, hr, hf⟩ := eq_of_silent_eq h
  exact ⟨hr ▸ ha.initial, fun hn => hr ▸ ha.complete (hf ▸ hn)⟩

theorem Makes.all_skip {p : α → Bool} {f : α → Output ε} {g : α → List TypeDef} {l : List α}
    (h : ∀ a ∈ l.filter p, (f a).Makes (g a)) (e : α → Event) :
    (Output.all (fun a => if p a then f a else event (e a)) l).Makes ((l.filter p).flatMap g) :=
  (Makes.all h).of_silent_eq (silent_all_skip p f e l)

/-! ## What can be seen -/

/-- The lines of an output and how it ends. -/
def visible (a : Output ε) : Output ε := { lines := a.lines, failure := a.failure }

theorem visible_andThen (a b : Output ε) :
    (a.andThen b).visible = a.visible.andThen b.visible := by
  cases h : a.failure with
  | some e => rw [andThen_of_failure h, andThen_of_failure (show a.visible.failure = some e from h)]
  | none =>
    rw [andThen_of_ok h, andThen_of_ok (show a.visible.failure = none from h)]
    rfl

theorem visible_all (f : α → Output ε) (l : List α) :
    (all f l).visible = all (fun a => (f a).visible) l :=
  all_of_andThen rfl visible_andThen f l

/-! ## What is written -/

/-- The output does not fail, and writes these lines. -/
structure Writes (a : Output ε) (ls : List String) : Prop where
  ok : a.failure = none
  eq : a.lines = ls

theorem writes_lines {a : Output ε} (h : a.failure = none) : a.Writes a.lines := ⟨h, rfl⟩

theorem writes_ofLines {written ls : List String} :
    (ofLines written : Output ε).Writes ls ↔ ls = written :=
  ⟨fun h => h.eq.symm, fun h => ⟨rfl, h.symm⟩⟩

theorem writes_line {l : String} {ls : List String} : (line l : Output ε).Writes ls ↔ ls = [l] :=
  writes_ofLines

theorem writes_comment {lead text : String} {ls : List String} :
    (comment lead text : Output ε).Writes ls ↔
      ls = (commentLines lead.toList text.toList).map String.ofList :=
  writes_ofLines

theorem writes_empty {ls : List String} : (empty : Output ε).Writes ls ↔ ls = [] :=
  writes_ofLines

theorem writes_mapFailure {f : ε → δ} {a : Output ε} {ls : List String} :
    (a.mapFailure f).Writes ls ↔ a.Writes ls :=
  ⟨fun h => ⟨Option.map_eq_none_iff.mp h.ok, h.eq⟩,
    fun h => ⟨Option.map_eq_none_iff.mpr h.ok, h.eq⟩⟩

theorem writes_withResult {r : Except ε α} {f : α → Output ε} {ls : List String} :
    (withResult r f).Writes ls ↔ ∃ a, r = .ok a ∧ (f a).Writes ls := by
  cases r with
  | error e =>
    constructor
    · intro h
      cases h.ok
    · rintro ⟨a, ha, -⟩
      cases ha
  | ok a => simp [withResult]

theorem writes_andThen {a b : Output ε} {ls : List String} :
    (a.andThen b).Writes ls ↔ ∃ as bs, a.Writes as ∧ b.Writes bs ∧ ls = as ++ bs := by
  constructor
  · intro h
    have hok := h.ok
    rw [failure_andThen, Option.or_eq_none_iff] at hok
    refine ⟨a.lines, b.lines, writes_lines hok.1, writes_lines hok.2, ?_⟩
    rw [← h.eq, andThen_of_ok hok.1]
  · rintro ⟨as, bs, ha, hb, rfl⟩
    rw [andThen_of_ok ha.ok]
    exact ⟨hb.ok, by rw [← ha.eq, ← hb.eq]⟩

theorem writes_all {f : α → Output ε} {l : List α} {ls : List String} :
    (all f l).Writes ls ↔
      ∃ blocks, List.Forall₂ (fun a b => (f a).Writes b) l blocks ∧ ls = blocks.flatten := by
  induction l generalizing ls with
  | nil =>
    rw [all_nil, writes_empty]
    constructor
    · rintro rfl
      exact ⟨[], .nil, rfl⟩
    · rintro ⟨blocks, hblocks, rfl⟩
      cases hblocks
      rfl
  | cons a as ih =>
    rw [all_cons, writes_andThen]
    constructor
    · rintro ⟨b, bs, ha, hbs, rfl⟩
      obtain ⟨blocks, hblocks, rfl⟩ := ih.mp hbs
      exact ⟨b :: blocks, .cons ha hblocks, rfl⟩
    · rintro ⟨blocks, hblocks, rfl⟩
      obtain ⟨b, bs, ha, hbs, rfl⟩ := List.forall₂_cons_left_iff.mp hblocks
      exact ⟨b, bs.flatten, ha, ih.mpr ⟨bs, hbs, rfl⟩, rfl⟩

/-- What writes nothing can be left out at the start. -/
theorem writes_andThen_of_nil {a b : Output ε} {ls : List String} (ha : a.Writes []) :
    (a.andThen b).Writes ls ↔ b.Writes ls := by
  rw [writes_andThen]
  constructor
  · rintro ⟨as, bs, ha', hb, rfl⟩
    rwa [← ha'.eq, ha.eq, List.nil_append]
  · intro hb
    exact ⟨[], ls, ha, hb, rfl⟩

/-- Members that cannot fail write their lines. -/
theorem writes_all_of_total {f : α → Output ε} {g : α → List String}
    (h : ∀ a ls, (f a).Writes ls ↔ ls = g a) {l : List α} {ls : List String} :
    (all f l).Writes ls ↔ ls = l.flatMap g := by
  induction l generalizing ls with
  | nil => exact writes_empty
  | cons a as ih =>
    rw [all_cons, writes_andThen, List.flatMap_cons]
    constructor
    · rintro ⟨b, bs, ha, hbs, rfl⟩
      rw [(h a b).mp ha, ih.mp hbs]
    · rintro rfl
      exact ⟨g a, as.flatMap g, (h a _).mpr rfl, ih.mpr rfl, rfl⟩

/-- Members that are only logged as skipped write nothing. -/
theorem writes_all_skip {p : α → Bool} {f : α → Output ε} {e : α → Event} {l : List α}
    {ls : List String} : (all (fun a => if p a then f a else event (e a)) l).Writes ls ↔
      ∃ blocks, List.Forall₂ (fun a b => (f a).Writes b) (l.filter p) blocks ∧
        ls = blocks.flatten := by
  obtain ⟨hlines, -, hfailure⟩ := eq_of_silent_eq (silent_all_skip p f e l)
  rw [← writes_all]
  constructor
  · intro h
    exact ⟨hfailure ▸ h.ok, hlines ▸ h.eq⟩
  · intro h
    exact ⟨hfailure ▸ h.ok, hlines ▸ h.eq⟩

/-! ## Coming to a part -/

/-- The output writes these lines, then comes to another one, and goes on after it unless that
fails. -/
def Reaches (a : Output ε) (ls : List String) (b : Output ε) : Prop :=
  ∃ rest, a.lines = ls ++ (b.andThen rest).lines ∧ a.failure = (b.andThen rest).failure

theorem Reaches.andThen {a b : Output ε} {ls : List String} (h : a.Reaches ls b)
    (c : Output ε) : (a.andThen c).Reaches ls b := by
  obtain ⟨rest, hlines, hfailure⟩ := h
  refine ⟨rest.andThen c, ?_⟩
  rw [← andThen_assoc]
  cases hrest : (b.andThen rest).failure with
  | some e =>
    rw [andThen_of_failure hrest, andThen_of_failure (hfailure.trans hrest)]
    exact ⟨hlines, hfailure⟩
  | none =>
    rw [andThen_of_ok hrest, andThen_of_ok (hfailure.trans hrest), hlines]
    exact ⟨List.append_assoc .., rfl⟩

theorem Writes.reaches {x a b : Output ε} {ks ls : List String} (hx : x.Writes ks)
    (h : a.Reaches ls b) : (x.andThen a).Reaches (ks ++ ls) b := by
  obtain ⟨rest, hlines, hfailure⟩ := h
  rw [andThen_of_ok hx.ok, hx.eq]
  exact ⟨rest, by rw [hlines, List.append_assoc], hfailure⟩

/-- A list comes to each of its members if those before it do not fail. -/
theorem Reaches.all {f : α → Output ε} {before : List α} {ks ls : List String} {a : α}
    {b : Output ε} (hbefore : (all f before).Writes ks) (h : (f a).Reaches ls b)
    (after : List α) : (Output.all f (before ++ a :: after)).Reaches (ks ++ ls) b := by
  rw [all_append, all_cons]
  exact hbefore.reaches (h.andThen _)

end ProtoSchema.Proto.Output
