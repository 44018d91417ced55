import Mathlib.Data.Nat.Cast.Field
import Mathlib.Data.Rat.Cast.Defs
import ProtoSchema.Annotation
import ProtoSchema.Proofs.Results

/-!
# Annotations as integers

The value of an annotation may be an integer of one of six kinds or a floating-point number. It is
brought to 64 bits with a sign before it is checked that it has 32, and on the way there an integer
may come round and a floating-point number may lose its fraction. Neither happens: what is returned
is the very number that the value is (`toInt_exact`).

`Value.toRat?` is this number, as a rational. One lemma says what becomes of a value on the way
(`toInt64_cases`): it keeps its number, or it is refused and does not have 32 bits.
-/

namespace ProtoSchema

/-! ## Floating-point numbers as rationals -/

namespace Number.Binary64

/-- The rational that a finite number is. -/
def toRat? : Binary64 → Option ℚ
  | nan => none
  | infinite _ => none
  | finite negative significand exponent =>
    some ((if negative then -1 else 1) * (significand * 2 ^ exponent))

theorem magnitude_pos (m : Nat) (e : Int) : 0 < (magnitude m e).2 := by
  cases e with
  | ofNat k => exact Nat.one_pos
  | negSucc k => exact Nat.two_pow_pos (k + 1)

theorem magnitude_eq (m : Nat) (e : Int) :
    ((magnitude m e).1 : ℚ) / (magnitude m e).2 = m * 2 ^ e := by
  cases e with
  | ofNat k => simp [magnitude]
  | negSucc k => simp [magnitude, zpow_negSucc, div_eq_mul_inv]

/-- A quotient of naturals is an integer exactly if there is no remainder. -/
theorem div_eq_intCast_iff {a d : Nat} (hd : 0 < d) (n : Int) :
    (a : ℚ) / d = n ↔ a % d = 0 ∧ ((a / d : Nat) : Int) = n := by
  have hne : (d : ℚ) ≠ 0 := by exact_mod_cast hd.ne'
  constructor
  · intro h
    have hmul : (a : Int) = n * d := by
      have := (div_eq_iff hne).mp h
      exact_mod_cast this
    constructor
    · have hrest : (a : Int) % d = 0 := by rw [hmul, Int.mul_emod_left]
      exact_mod_cast hrest
    · rw [Int.natCast_ediv, hmul]
      exact Int.mul_ediv_cancel n (by exact_mod_cast hd.ne')
  · rintro ⟨hrest, rfl⟩
    have hdvd : d ∣ a := Nat.dvd_of_mod_eq_zero hrest
    rw [Int.cast_natCast, Nat.cast_div hdvd hne]

/-- A number is cut down to an integer only if it is one. -/
theorem toInt?_eq_some_iff {x : Binary64} {n : Int} :
    x.toInt? = some n ↔ x.toRat? = some (n : ℚ) := by
  cases x with
  | nan => simp [toInt?, toRat?]
  | infinite negative => simp [toInt?, toRat?]
  | finite negative m e =>
    have hquotient := div_eq_intCast_iff (a := (magnitude m e).1) (magnitude_pos m e)
    simp only [toInt?, toRat?, Option.some.injEq, ← magnitude_eq]
    cases negative with
    | true =>
      have hsign : (-1 : ℚ) * ((magnitude m e).1 / (magnitude m e).2) = n ↔
          ((magnitude m e).1 : ℚ) / (magnitude m e).2 = ((-n : Int) : ℚ) := by
        rw [neg_one_mul, neg_eq_iff_eq_neg, Int.cast_neg]
      simp only [if_true, Option.ite_none_right_eq_some, Option.some.injEq]
      rw [hsign, hquotient, neg_eq_iff_eq_neg]
    | false =>
      simp only [Bool.false_eq_true, if_false, one_mul, Option.ite_none_right_eq_some,
        Option.some.injEq]
      rw [hquotient]

end Number.Binary64

/-! ## Words -/

theorem toInt_toInt64_of_lt {n : UInt64} (h : n.toNat < 0x8000000000000000) :
    n.toInt64.toInt = n.toNat := by
  rw [← Int64.toInt_toBitVec, UInt64.toBitVec_toInt64, BitVec.toInt_eq_toNat_of_lt]
  · rfl
  · rw [UInt64.toNat_toBitVec]
    omega

/-- An integer that fits keeps its number. -/
theorem FixedInt.toInt_toInt64 {n : FixedInt} (h : n.toInt < 0x8000000000000000) :
    n.toInt64.toInt = n.toInt := by
  cases n with
  | int n => rfl
  | int32 n => exact Int32.toInt_toInt64 n
  | int64 n => rfl
  | uint n => exact toInt_toInt64_of_lt (Int.ofNat_lt.mp h)
  | uint32 n =>
    have hsmall : n.toUInt64.toNat < 0x8000000000000000 := by
      rw [UInt32.toNat_toUInt64]
      have := n.toNat_lt
      omega
    rw [FixedInt.toInt64, toInt_toInt64_of_lt hsmall, UInt32.toNat_toUInt64]
    rfl
  | uint64 n => exact toInt_toInt64_of_lt (Int.ofNat_lt.mp h)

/-! ## Values as numbers -/

/-- The number that a value is: an integer, or a finite floating-point number. -/
def Value.toRat? : Value → Option ℚ
  | fixedInt n => some n.toInt
  | float x => x.toRat?
  | null | bool _ | text _ | time _ | list _ | map _ | table _ | foreign _ _ => none

namespace Annotation

theorem fitsInt32_iff {n : Int} :
    fitsInt32 n = true ↔ -2147483648 ≤ n ∧ n ≤ 2147483647 := by
  unfold fitsInt32
  rw [Bool.and_eq_true, decide_eq_true_eq, decide_eq_true_eq]
  omega

/-- The check that is made before an integer without a sign and with 64 bits gets one. -/
theorem guard_cases (n : UInt64) (e : IntError) :
    let guarded : Except IntError Int64 := if n > 0x7fffffff then .error e else .ok n.toInt64
    (guarded = .ok n.toInt64 ∧ (n.toNat : Int) < 0x8000000000000000) ∨
      (guarded = .error e ∧ fitsInt32 n.toNat = false) := by
  intro guarded
  by_cases hlarge : n > 0x7fffffff
  · refine .inr ⟨if_pos hlarge, ?_⟩
    have hnat : 0x7fffffff < n.toNat := UInt64.lt_iff_toNat_lt.mp hlarge
    rw [← Bool.not_eq_true, fitsInt32_iff]
    omega
  · refine .inl ⟨if_neg hlarge, ?_⟩
    have hnat : ¬ 0x7fffffff < n.toNat := fun hlt => hlarge (UInt64.lt_iff_toNat_lt.mpr hlt)
    omega

/-- What becomes of an integer of some width: it keeps its number, or it is refused because it does
not have 32 bits. -/
theorem toInt64_of_fixedInt {a : Annotation} {n : FixedInt} (h : a.value = .fixedInt n) :
    (a.toInt64 = .ok n.toInt64 ∧ n.toInt < 0x8000000000000000) ∨
      ((∃ e, a.toInt64 = .error e) ∧ fitsInt32 n.toInt = false) := by
  unfold toInt64
  rw [h]
  cases n with
  | int n => exact .inl ⟨rfl, n.toInt_lt⟩
  | int32 n => exact .inl ⟨rfl, lt_trans n.toInt_lt (by decide)⟩
  | int64 n => exact .inl ⟨rfl, n.toInt_lt⟩
  | uint32 n => exact .inl ⟨rfl, lt_trans (Int.ofNat_lt.mpr n.toNat_lt) (by decide)⟩
  | uint n => exact (guard_cases n _).imp_right fun hrefused => ⟨⟨_, hrefused.1⟩, hrefused.2⟩
  | uint64 n => exact (guard_cases n _).imp_right fun hrefused => ⟨⟨_, hrefused.1⟩, hrefused.2⟩

/-- A floating-point number that is an integer of 32 bits keeps its number. -/
theorem toInt64_of_float {a : Annotation} {x : Number.Binary64} {n : Int} (h : a.value = .float x)
    (hx : x.toRat? = some (n : ℚ)) (hn : fitsInt32 n = true) :
    a.toInt64 = .ok (.ofInt n) := by
  have hint : x.toInt? = some n := Number.Binary64.toInt?_eq_some_iff.mpr hx
  unfold toInt64
  rw [h]
  cases x with
  | nan => cases hx
  | infinite negative => cases hx
  | finite negative m e => simp only [hint, hn, if_true]

/-- Every other floating-point number is refused. -/
theorem exists_error_of_float {a : Annotation} {x : Number.Binary64} (h : a.value = .float x)
    (hx : ∀ n : Int, x.toRat? = some (n : ℚ) → fitsInt32 n = false) :
    ∃ e, a.toInt64 = .error e := by
  unfold toInt64
  rw [h]
  cases x with
  | nan => exact ⟨_, rfl⟩
  | infinite negative => exact ⟨_, rfl⟩
  | finite negative m e =>
    cases hint : (Number.Binary64.finite negative m e).toInt? with
    | none =>
      simp only [hint]
      exact ⟨_, rfl⟩
    | some n =>
      have hn : fitsInt32 n = false := hx n (Number.Binary64.toInt?_eq_some_iff.mp hint)
      simp only [hint, hn, Bool.false_eq_true, if_false]
      exact ⟨_, rfl⟩

/-- What becomes of a value that is brought to 64 bits: it keeps its number, or it is refused because
it is no integer of 32 bits. -/
theorem toInt64_cases (a : Annotation) :
    (∃ wide, a.toInt64 = .ok wide ∧ a.value.toRat? = some (wide.toInt : ℚ)) ∨
      ((∃ e, a.toInt64 = .error e) ∧
        ∀ n : Int, a.value.toRat? = some (n : ℚ) → fitsInt32 n = false) := by
  cases h : a.value with
  | fixedInt n =>
    obtain ⟨hwide, hlt⟩ | ⟨herror, hlarge⟩ := toInt64_of_fixedInt h
    · exact .inl ⟨n.toInt64, hwide, by rw [FixedInt.toInt_toInt64 hlt]; rfl⟩
    · refine .inr ⟨herror, fun k hk => ?_⟩
      obtain rfl : n.toInt = k := Int.cast_injective (Option.some.inj hk)
      exact hlarge
  | float x =>
    by_cases hx : ∃ n : Int, x.toRat? = some (n : ℚ) ∧ fitsInt32 n = true
    · obtain ⟨n, hx, hn⟩ := hx
      refine .inl ⟨.ofInt n, toInt64_of_float h hx hn, ?_⟩
      have hbounds := fitsInt32_iff.mp hn
      rw [Int64.toInt_ofInt_of_le (by omega) (by omega)]
      exact hx
    · have hrefused (n : Int) (hn : x.toRat? = some (n : ℚ)) : fitsInt32 n = false :=
        Bool.eq_false_iff.mpr fun hfits => hx ⟨n, hn, hfits⟩
      exact .inr ⟨exists_error_of_float h hrefused, hrefused⟩
  | null | bool | text | time | list | map | table | foreign =>
    refine .inr ⟨?_, fun n hn => nomatch hn⟩
    unfold toInt64
    rw [h]
    exact ⟨_, rfl⟩

theorem toInt_eq_ok_iff {a : Annotation} {n : Int} :
    a.toInt = .ok n ↔ ∃ wide, a.toInt64 = .ok wide ∧ wide.toInt = n ∧ fitsInt32 n = true := by
  unfold toInt
  rw [bind_eq_ok]
  refine exists_congr fun wide => and_congr_right fun _ => ?_
  constructor
  · intro h
    split at h
    · next hfits =>
      cases h
      exact ⟨rfl, hfits⟩
    · cases h
  · rintro ⟨rfl, hfits⟩
    exact if_pos hfits

/-- The value of an annotation as an integer is exact. It is the number that the value is, if that is
an integer of 32 bits, and every other value is refused. -/
theorem toInt_exact (a : Annotation) :
    (∀ n : Int, a.toInt = .ok n ↔
      a.value.toRat? = some (n : ℚ) ∧ -2147483648 ≤ n ∧ n ≤ 2147483647) ∧
    ((∃ e, a.toInt = .error e) ↔
      ¬ ∃ n : Int, a.value.toRat? = some (n : ℚ) ∧ -2147483648 ≤ n ∧ n ≤ 2147483647) := by
  have hok (n : Int) : a.toInt = .ok n ↔
      a.value.toRat? = some (n : ℚ) ∧ -2147483648 ≤ n ∧ n ≤ 2147483647 := by
    rw [toInt_eq_ok_iff, ← fitsInt32_iff]
    obtain ⟨wide, hwide, hvalue⟩ | ⟨⟨e, herror⟩, hrefused⟩ := toInt64_cases a
    · have hsame : a.value.toRat? = some (n : ℚ) ↔ wide.toInt = n := by
        rw [hvalue, Option.some_inj, Int.cast_inj]
      simp only [hwide, hsame, Except.ok.injEq, exists_eq_left']
    · constructor
      · rintro ⟨wide, hwide, -⟩
        rw [herror] at hwide
        cases hwide
      · rintro ⟨hvalue, hfits⟩
        rw [hrefused n hvalue] at hfits
        cases hfits
  refine ⟨hok, ?_⟩
  rw [← exists_congr hok, ← errorOf_eq_none]
  cases a.toInt with
  | ok n => simp [errorOf]
  | error e => simp [errorOf]

-- Unchecked, the largest integer without a sign would be minus one and pass for an integer of 32 bits.
example :
    (FixedInt.uint64 0xffffffffffffffff).toInt64 = -1 ∧
      (toInt ⟨"number", .fixedInt (.uint64 0xffffffffffffffff)⟩).toOption = none := by
  decide +kernel

end Annotation

end ProtoSchema
