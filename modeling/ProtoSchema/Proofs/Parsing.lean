import Mathlib.Algebra.BigOperators.Group.List.Basic
import ProtoSchema.Proofs.Lexing
import ProtoSchema.Proto.Outline

/-!
# Rules that take what they are given

What the rules of the grammar do with the tokens of a declaration. A rule that takes some tokens
takes them whatever follows (`Reads`), since every declaration ends in a semicolon or a brace. Only
the name of a type does not know its own end: it goes on as long as there are points.

Elements in braces are repeated with as much fuel as there are tokens. Every element takes at least
one, so the fuel lasts (`manyUntil_flatMap`).
-/

namespace ProtoSchema.Proto

/-! ## Declarations as tokens -/

/-- What follows the type of a field. -/
def fieldEnd (name : String) (number : Nat) : List Token :=
  [.word name, .symbol '=', .integer number, .symbol ';']

/-- A map type. -/
def mapTokens (key : String) (value : List String) : List Token :=
  [.word "map", .symbol '<', .word key, .symbol ','] ++ pathTokens value ++ [.symbol '>']

/-- An operation of a service. -/
def rpcTokens (name : String) (request response : List String) : List Token :=
  [.word "rpc", .word name, .symbol '('] ++ pathTokens request ++
    [.symbol ')', .word "returns", .symbol '('] ++ pathTokens response ++ [.symbol ')', .symbol ';']

/-- A value of an enum. -/
def valueTokens (name : String) (index : Int) : List Token :=
  [.word name, .symbol '='] ++ integerTokens index ++ [.symbol ';']

/-- A named block. -/
def blockTokens (kind name : String) (body : List Token) : List Token :=
  [.word kind, .word name, .symbol '\x7b'] ++ (body ++ [.symbol '\x7d'])

/-- The line that names the language's version. -/
def versionTokens : List Token := [.word "syntax", .symbol '=', .literal, .symbol ';']

/-- The line that names the package. -/
def packageTokens (path : List String) : List Token :=
  [.word "package"] ++ pathTokens path ++ [.symbol ';']

/-- The line of an option with a literal for its value. -/
def optionTokens (name : String) : List Token :=
  [.word "option", .word name, .symbol '=', .literal, .symbol ';']

/-- Words that open something else in one of the places where the name of a type stands. -/
def typeKeywords : List String := [
  "option", "message", "enum", "oneof", "extend", "extensions", "reserved", "optional", "required",
  "repeated", "group", "stream"]

/-- Words that open something else where a value of an enum stands. -/
def valueKeywords : List String := ["option", "reserved"]

/-- Whether a name with these parts is read as the name of a type everywhere. -/
def isTypePath : List String → Bool
  | [] => false
  | w :: _ => !typeKeywords.contains w

theorem exists_of_isTypePath {p : List String} (h : isTypePath p = true) :
    ∃ w ws, p = w :: ws ∧ w ∉ typeKeywords := by
  cases p with
  | nil => cases h
  | cons w ws => exact ⟨w, ws, rfl, by simpa [isTypePath] using h⟩

namespace Rule

variable {α β : Type}

/-- The rule takes exactly these tokens, whatever follows them. -/
def Reads (r : Rule α) (ts : List Token) (a : α) : Prop := ∀ rest, r (ts ++ rest) = .ok (a, rest)

/-- The rule takes exactly these tokens, the first of which is a word. -/
def ReadsItem (r : Rule α) (ts : List Token) (a : α) : Prop :=
  (∃ w us, ts = .word w :: us) ∧ Reads r ts a

theorem bind_of_ok {r : Rule α} {f : α → Rule β} {ts rest : List Token} {a : α}
    (h : r ts = .ok (a, rest)) : (r >>= f) ts = f a rest := by
  change (r ts >>= fun x => f x.1 x.2) = f a rest
  rw [h]
  rfl

/-! ## Repetition -/

theorem manyUntilFrom_flatMap {done : List Token → Bool} {element : Rule α} {f : β → List Token}
    {g : β → α} {rest : List Token} (hdone : done rest = true) {xs : List β}
    (hnot : ∀ x ∈ xs, ∀ rest, done (f x ++ rest) = false)
    (hreads : ∀ x ∈ xs, Reads element (f x) (g x)) {fuel : Nat} (hfuel : xs.length < fuel) :
    manyUntilFrom done element fuel (xs.flatMap f ++ rest) = .ok (xs.map g, rest) := by
  induction xs generalizing fuel with
  | nil =>
    cases fuel with
    | zero => cases hfuel
    | succ n => simp [manyUntilFrom, hdone]
  | cons x xs ih =>
    cases fuel with
    | zero => cases hfuel
    | succ n =>
      have hrest := ih (fun y hy => hnot y (by simp [hy])) (fun y hy => hreads y (by simp [hy]))
        (Nat.lt_of_succ_lt_succ hfuel)
      rw [List.flatMap_cons, List.append_assoc]
      simp only [manyUntilFrom, hnot x List.mem_cons_self, hreads x List.mem_cons_self _,
        Bool.false_eq_true, if_false]
      change (manyUntilFrom done element n (xs.flatMap f ++ rest) >>= fun y =>
        .ok (g x :: y.1, y.2)) = _
      rw [hrest]
      rfl

/-- An element that takes nothing would go on where the repetition is done, so none does. -/
theorem manyUntil_flatMap {done : List Token → Bool} {element : Rule α} {f : β → List Token}
    {g : β → α} {rest : List Token} (hdone : done rest = true) {xs : List β}
    (hnot : ∀ x ∈ xs, ∀ rest, done (f x ++ rest) = false)
    (hreads : ∀ x ∈ xs, Reads element (f x) (g x)) :
    manyUntil done element (xs.flatMap f ++ rest) = .ok (xs.map g, rest) := by
  have hpos : ∀ x ∈ xs, 1 ≤ (f x).length := by
    intro x hx
    rw [Nat.one_le_iff_ne_zero, ne_eq, List.length_eq_zero_iff]
    intro hnil
    have hfalse := hnot x hx rest
    rw [hnil, List.nil_append, hdone] at hfalse
    cases hfalse
  have hlength : xs.length ≤ (xs.flatMap f).length := by
    rw [List.length_flatMap]
    simpa using List.length_le_sum_of_one_le (xs.map fun x => (f x).length) (by simpa using hpos)
  refine manyUntilFrom_flatMap hdone hnot hreads ?_
  rw [List.length_append]
  omega

theorem upToBrace_reads {element : Rule Unit} {f : β → List Token} {xs : List β}
    (h : ∀ x ∈ xs, ReadsItem element (f x) ()) :
    Reads (upToBrace element) (xs.flatMap f ++ [.symbol '\x7d']) () := by
  intro rest
  rw [List.append_assoc]
  have hmany : manyUntil (fun tokens => tokens.head? = some (.symbol '\x7d')) element
      (xs.flatMap f ++ ([.symbol '\x7d'] ++ rest)) =
        .ok (xs.map fun _ => (), [.symbol '\x7d'] ++ rest) := by
    refine manyUntil_flatMap (by simp) (fun x hx rest => ?_) fun x hx => (h x hx).2
    obtain ⟨⟨w, us, hstart⟩, -⟩ := h x hx
    simp [hstart]
  rw [upToBrace, bind_of_ok hmany]
  rfl

/-! ## Names of types -/

theorem path_eq {w : String} {ws : List String} {rest : List Token}
    (hrest : rest.head? ≠ some (.symbol '.')) :
    path (pathTokens (w :: ws) ++ rest) = .ok (w :: ws, rest) := by
  have hmore : more '.' name ((ws.flatMap fun w => [.symbol '.', .word w]) ++ rest) =
      .ok (ws.map id, rest) := by
    refine manyUntil_flatMap (by simpa using hrest) (fun x _ rest => by simp) fun x _ rest => rfl
  rw [List.map_id] at hmore
  rw [path, separated, pathTokens, List.cons_append]
  have hname : name (.word w :: ((ws.flatMap fun w => [.symbol '.', .word w]) ++ rest)) =
      .ok (w, (ws.flatMap fun w => [.symbol '.', .word w]) ++ rest) := rfl
  rw [bind_of_ok hname, bind_of_ok hmore]
  rfl

theorem typeName_eq {w : String} {ws : List String} {rest : List Token}
    (hrest : rest.head? ≠ some (.symbol '.')) :
    typeName (pathTokens (w :: ws) ++ rest) = .ok ((), rest) := by
  have hoptional : optional (.symbol '.') (pathTokens (w :: ws) ++ rest) =
      .ok (false, pathTokens (w :: ws) ++ rest) := rfl
  rw [typeName, bind_of_ok hoptional, bind_of_ok (path_eq hrest)]
  rfl

/-! ## Fields -/

variable {p : List String} {n : String}

theorem field_reads {type : Rule Unit} {ts : List Token}
    (htype : ∀ rest, type (ts ++ .word n :: rest) = .ok ((), .word n :: rest)) (k : Nat) :
    Reads (field type) (ts ++ fieldEnd n k) () := by
  intro rest
  rw [List.append_assoc, field]
  exact bind_of_ok (htype _)

theorem fieldType_eq (hp : p ≠ []) (rest : List Token) :
    fieldType (pathTokens p ++ .word n :: rest) = .ok ((), .word n :: rest) := by
  obtain ⟨w, ws, rfl⟩ := List.exists_cons_of_ne_nil hp
  unfold fieldType
  split
  · rename_i heq
    cases ws with
    | nil => simp [pathTokens] at heq
    | cons v vs => simp [pathTokens] at heq
  · exact typeName_eq (by simp)

theorem fieldType_map {key : String} (hkey : key ∈ keyTypes) (hp : p ≠ []) (rest : List Token) :
    fieldType (mapTokens key p ++ rest) = .ok ((), rest) := by
  obtain ⟨w, ws, rfl⟩ := List.exists_cons_of_ne_nil hp
  have hkeyType (rest : List Token) : keyType (.word key :: rest) = .ok ((), rest) := by
    change (if keyTypes.contains key then skip else fail : Rule Unit) (.word key :: rest) = _
    rw [if_pos (List.contains_iff_mem.mpr hkey)]
    rfl
  have htypeName : typeName (pathTokens (w :: ws) ++ .symbol '>' :: rest) =
      .ok ((), .symbol '>' :: rest) := typeName_eq (by simp)
  change (do
      keyType
      symbol ','
      typeName
      symbol '>' : Rule Unit)
    (.word key :: .symbol ',' :: ((pathTokens (w :: ws) ++ [.symbol '>']) ++ rest)) = _
  rw [bind_of_ok (hkeyType _)]
  change (typeName >>= fun _ => symbol '>') (pathTokens (w :: ws) ++ [.symbol '>'] ++ rest) = _
  rw [List.append_assoc]
  exact bind_of_ok htypeName

theorem labels_subset : labels ⊆ typeKeywords := by decide

/-- A word that opens nothing else opens a field. -/
theorem messageElement_word {w : String} (hw : w ∉ typeKeywords) (depth : Nat) (ts : List Token) :
    messageElement (depth + 1) (.word w :: ts) = field fieldType (.word w :: ts) := by
  have hpeek : peek (.word w :: ts) = .ok (some (.word w), .word w :: ts) := rfl
  rw [messageElement, bind_of_ok hpeek]
  refine congrFun (?_ : _ = field fieldType) _
  split
  case h_1 heq => cases heq
  case h_9 v heq =>
    cases heq
    exact if_neg fun hlabel => hw (labels_subset (List.contains_iff_mem.mp hlabel))
  case h_10 hword => exact absurd rfl (hword w)
  all_goals
    rename_i heq
    cases heq
    exact absurd (by decide) hw

theorem messageElement_named (hp : isTypePath p = true) (n : String) (k depth : Nat) :
    ReadsItem (messageElement (depth + 1)) (pathTokens p ++ fieldEnd n k) () := by
  obtain ⟨w, ws, rfl, hw⟩ := exists_of_isTypePath hp
  refine ⟨⟨w, _, rfl⟩, fun rest => ?_⟩
  exact (messageElement_word hw depth _).trans
    (field_reads (fieldType_eq (List.cons_ne_nil w ws)) k rest)

theorem messageElement_map {key : String} (hkey : key ∈ keyTypes) (hp : p ≠ []) (n : String)
    (k depth : Nat) :
    ReadsItem (messageElement (depth + 1)) (mapTokens key p ++ fieldEnd n k) () := by
  refine ⟨⟨"map", _, rfl⟩, fun rest => ?_⟩
  exact (messageElement_word (by decide) depth _).trans
    (field_reads (fun rest => fieldType_map hkey hp _) k rest)

theorem messageElement_labelled {label : String} (hlabel : label ∈ ["optional", "repeated"])
    (hp : isTypePath p = true) (n : String) (k depth : Nat) :
    ReadsItem (messageElement (depth + 1)) (.word label :: (pathTokens p ++ fieldEnd n k)) () := by
  obtain ⟨w, ws, rfl, hw⟩ := exists_of_isTypePath hp
  refine ⟨⟨label, _, rfl⟩, fun rest => ?_⟩
  have hopens (ts : List Token) : messageElement (depth + 1) (.word label :: ts) =
      labelled (messageElement depth) ts := by
    simp only [List.mem_cons, List.not_mem_nil, or_false] at hlabel
    rcases hlabel with rfl | rfl <;> rfl
  have hgroup (ts : List Token) : optional (.word "group") (.word w :: ts) =
      .ok (false, .word w :: ts) := by
    have hne : Token.word w ≠ .word "group" := fun heq => hw (by cases heq; decide)
    simp only [optional, if_neg hne]
  rw [List.cons_append, hopens, labelled]
  exact (bind_of_ok (hgroup _)).trans
    (field_reads (fun rest => typeName_eq (by simp)) k rest)

/-- A member of a `oneof`. -/
theorem choiceElement_named {body : Rule Unit} (hp : isTypePath p = true) (n : String) (k : Nat) :
    ReadsItem (choiceElement body) (pathTokens p ++ fieldEnd n k) () := by
  obtain ⟨w, ws, rfl, hw⟩ := exists_of_isTypePath hp
  refine ⟨⟨w, _, rfl⟩, fun rest => ?_⟩
  have hpeek (ts : List Token) : peek (.word w :: ts) = .ok (some (.word w), .word w :: ts) := rfl
  have hopens (ts : List Token) :
      choiceElement body (.word w :: ts) = field (typeNameExcept labels) (.word w :: ts) := by
    rw [choiceElement, bind_of_ok (hpeek ts)]
    refine congrFun (?_ : _ = field (typeNameExcept labels)) _
    split
    case h_1 heq => cases heq
    case h_4 => rfl
    all_goals
      rename_i heq
      cases heq
      exact absurd (by decide) hw
  have hexcept (ts : List Token) :
      typeNameExcept labels (.word w :: ts) = typeName (.word w :: ts) := by
    rw [typeNameExcept, bind_of_ok (hpeek ts)]
    exact congrFun (if_neg fun hlabel => hw (labels_subset (List.contains_iff_mem.mp hlabel))) _
  have htype (rest : List Token) : typeNameExcept labels (pathTokens (w :: ws) ++ .word n :: rest) =
      .ok ((), .word n :: rest) := (hexcept _).trans (typeName_eq (by simp))
  exact (hopens _).trans (field_reads htype k rest)

/-! ## Operations and values -/

theorem endpoint_eq (hp : isTypePath p = true) (rest : List Token) :
    endpoint (.symbol '(' :: (pathTokens p ++ .symbol ')' :: rest)) = .ok ((), rest) := by
  obtain ⟨w, ws, rfl, hw⟩ := exists_of_isTypePath hp
  have hstream (ts : List Token) : optional (.word "stream") (.word w :: ts) =
      .ok (false, .word w :: ts) := by
    have hne : Token.word w ≠ .word "stream" := fun heq => hw (by cases heq; decide)
    simp only [optional, if_neg hne]
  have htype : typeName (pathTokens (w :: ws) ++ .symbol ')' :: rest) =
      .ok ((), .symbol ')' :: rest) := typeName_eq (by simp)
  change (optional (.word "stream") >>= fun _ => typeName >>= fun _ => symbol ')')
    (pathTokens (w :: ws) ++ .symbol ')' :: rest) = _
  exact (bind_of_ok (hstream _)).trans (bind_of_ok htype)

theorem serviceElement_rpc {request response : List String} (hrequest : isTypePath request = true)
    (hresponse : isTypePath response = true) (n : String) :
    ReadsItem serviceElement (rpcTokens n request response) () := by
  refine ⟨⟨"rpc", _, rfl⟩, fun rest => ?_⟩
  have hsplit : rpcTokens n request response ++ rest =
      .word "rpc" :: .word n :: .symbol '(' :: (pathTokens request ++ .symbol ')' ::
        .word "returns" :: .symbol '(' :: (pathTokens response ++ .symbol ')' ::
          .symbol ';' :: rest)) := by
    simp [rpcTokens]
  rw [hsplit]
  change (do
      endpoint
      keyword "returns"
      endpoint
      if ← optional (.symbol ';') then pure () else block operationElement : Rule Unit)
    (.symbol '(' :: (pathTokens request ++ .symbol ')' :: _)) = _
  rw [bind_of_ok (endpoint_eq hrequest _)]
  change (do
      endpoint
      if ← optional (.symbol ';') then pure () else block operationElement : Rule Unit)
    (.symbol '(' :: (pathTokens response ++ .symbol ')' :: _)) = _
  rw [bind_of_ok (endpoint_eq hresponse _)]
  rfl

theorem enumElement_value (hn : n ∉ valueKeywords) (index : Int) :
    ReadsItem enumElement (valueTokens n index) () := by
  refine ⟨⟨n, _, rfl⟩, fun rest => ?_⟩
  have hpeek (ts : List Token) : peek (.word n :: ts) = .ok (some (.word n), .word n :: ts) := rfl
  have hopens (ts : List Token) : enumElement (.word n :: ts) =
      (do
        let _ ← name
        symbol '='
        bound true
        bracketed
        symbol ';' : Rule Unit) (.word n :: ts) := by
    rw [enumElement, bind_of_ok (hpeek _)]
    refine congrFun ?_ _
    split
    case h_1 heq => cases heq
    case h_4 => rfl
    all_goals
      rename_i heq
      cases heq
      exact absurd (by decide) hn
  rw [valueTokens, integerTokens]
  split
  · exact hopens _
  · exact hopens _

/-! ## Blocks and files -/

/-- A named block with its elements. -/
def namedBlock (element : Rule Unit) : Rule String := do
  let n ← name
  block element
  return n

/-- A word that opens a named block makes it a declaration of its kind. -/
theorem declaration_block {kind : String} {declare : String → Declaration} {element : Rule Unit}
    (hkind : ∀ ts, declaration (.word kind :: ts) =
      (namedBlock element >>= fun n => pure (declare n)) ts)
    {f : β → List Token} {xs : List β} (h : ∀ x ∈ xs, ReadsItem element (f x) ()) (n : String) :
    ReadsItem declaration (blockTokens kind n (xs.flatMap f)) (declare n) := by
  refine ⟨⟨kind, _, rfl⟩, fun rest => ?_⟩
  have hblock : namedBlock element
      (.word n :: .symbol '\x7b' :: (xs.flatMap f ++ [.symbol '\x7d'] ++ rest)) =
        .ok (n, rest) := by
    change (upToBrace element >>= fun _ => pure n) _ = _
    rw [bind_of_ok (upToBrace_reads h rest)]
    rfl
  exact (hkind _).trans (bind_of_ok hblock)

/-- A choice among the fields of a message. -/
theorem messageElement_oneof {f : β → List Token} {xs : List β}
    (h : ∀ x ∈ xs, ∀ body, ReadsItem (choiceElement body) (f x) ()) (n : String) (depth : Nat) :
    ReadsItem (messageElement (depth + 1)) (blockTokens "oneof" n (xs.flatMap f)) () :=
  ⟨⟨"oneof", _, rfl⟩, fun rest => upToBrace_reads (fun x hx => h x hx _) rest⟩

theorem declaration_message {f : β → List Token} {xs : List β}
    (h : ∀ x ∈ xs, ∀ depth, ReadsItem (messageElement (depth + 1)) (f x) ()) (n : String) :
    ReadsItem declaration (blockTokens "message" n (xs.flatMap f)) (.message n) := by
  have hbody : ∀ x ∈ xs, ReadsItem messageBody (f x) () :=
    fun x hx => ⟨(h x hx 0).1, fun rest => (h x hx _).2 rest⟩
  exact declaration_block (fun _ => rfl) hbody n

theorem declaration_enum {f : β → List Token} {xs : List β}
    (h : ∀ x ∈ xs, ReadsItem enumElement (f x) ()) (n : String) :
    ReadsItem declaration (blockTokens "enum" n (xs.flatMap f)) (.enum n) :=
  declaration_block (fun _ => rfl) h n

theorem declaration_service {f : β → List Token} {xs : List β}
    (h : ∀ x ∈ xs, ReadsItem serviceElement (f x) ()) (n : String) :
    ReadsItem declaration (blockTokens "service" n (xs.flatMap f)) (.service n) :=
  declaration_block (fun _ => rfl) h n

theorem declaration_package (hp : p ≠ []) :
    ReadsItem declaration (packageTokens p) (.package (String.intercalate "." p)) := by
  obtain ⟨w, ws, rfl⟩ := List.exists_cons_of_ne_nil hp
  refine ⟨⟨"package", _, rfl⟩, fun rest => ?_⟩
  have hpath : path (pathTokens (w :: ws) ++ .symbol ';' :: rest) =
      .ok (w :: ws, .symbol ';' :: rest) := path_eq (by simp)
  rw [packageTokens, List.append_assoc]
  change (do
      let p ← path
      symbol ';'
      return .package (String.intercalate "." p) : Rule Declaration)
    (pathTokens (w :: ws) ++ .symbol ';' :: rest) = _
  rw [bind_of_ok hpath]
  rfl

theorem declaration_option (n : String) : ReadsItem declaration (optionTokens n) .other :=
  ⟨⟨"option", _, rfl⟩, fun _ => rfl⟩

/-- A file is read as its declarations. -/
theorem file_eq {ds : List (List Token × Declaration)}
    (h : ∀ d ∈ ds, ReadsItem declaration d.1 d.2) :
    file (versionTokens ++ ds.flatMap Prod.fst) =
      .ok ((ds.map Prod.snd).foldl Outline.add {}, []) := by
  have hversion : version (versionTokens ++ ds.flatMap Prod.fst) =
      .ok ((), ds.flatMap Prod.fst) := rfl
  have hmany : manyUntil (·.isEmpty) declaration (ds.flatMap Prod.fst ++ []) =
      .ok (ds.map Prod.snd, []) := by
    refine manyUntil_flatMap rfl (fun d hd rest => ?_) fun d hd => (h d hd).2
    obtain ⟨⟨w, us, hstart⟩, -⟩ := h d hd
    rw [hstart]
    rfl
  rw [List.append_nil] at hmany
  rw [file, bind_of_ok hversion, bind_of_ok hmany]
  rfl

end Rule

end ProtoSchema.Proto
