import Mathlib.Data.Nat.Log
import Conformance.Binary64

/-!
# Conformance.Proofs.Binary64.Integers

Integers among the binary64 numbers.  For an integer the exponent that rounding
settles on is that of its leading bit, so everything is a question of where this
bit is.

* `nearest_eq_of_exact` — rounding finds a number that is the integer itself.
* `Binary64.ofInt_of_toInt?` — a number that is equal to an integer is the one
  nearest to it, but for the sign of zero.
* `Binary64.isFinite_ofInt` — rounding an integer of less than 1023 bits gives a finite
  number.
-/

namespace Conformance

open BinaryFormat (double)

/-! ## Rounding -/

/-- A whole quotient is not rounded. -/
theorem roundDiv_mul_self (q : Nat) {den : Nat} (h : 0 < den) : roundDiv (q * den) den = q := by
  have hremainder : 2 * (q * den % den) < den := by
    rw [Nat.mul_mod_left]
    exact h
  simp only [roundDiv, Nat.mul_div_cancel q h]
  exact if_pos (.inl hremainder)

/-- Rounding never goes below the whole part. -/
theorem div_le_roundDiv (num den : Nat) : num / den ≤ roundDiv num den := by
  simp only [roundDiv]
  split <;> omega

/-- Rounding goes up by one at most. -/
theorem roundDiv_le_div_succ (num den : Nat) : roundDiv num den ≤ num / den + 1 := by
  simp only [roundDiv]
  split <;> omega

/-- A power of two moves the leading bit by its exponent. -/
theorem log2_mul_two_pow {n : Nat} (h : n ≠ 0) (k : Nat) :
    (n * Nat.pow 2 k).log2 = n.log2 + k := by
  induction k with
  | zero => exact congrArg Nat.log2 (Nat.mul_one n)
  | succ k ih =>
      have hpow : n * Nat.pow 2 (k + 1) = 2 * (n * Nat.pow 2 k) := by
        rw [Nat.pow_eq, Nat.pow_succ, ← Nat.mul_assoc, Nat.mul_comm]
        rfl
      have hne : n * Nat.pow 2 k ≠ 0 := Nat.mul_ne_zero h (Nat.two_pow_pos k).ne'
      calc (n * Nat.pow 2 (k + 1)).log2
          = (2 * (n * Nat.pow 2 k)).log2 := congrArg Nat.log2 hpow
        _ = (n * Nat.pow 2 k).log2 + 1 := Nat.log2_two_mul hne
        _ = n.log2 + (k + 1) := by rw [ih, Nat.add_assoc]

/-- The exponent at which the leading bit of a natural number fills the significand. -/
def leadingExponent (n : Nat) : Int := (n.log2 : Int) - 52

theorem floorLog2Div_one {n : Nat} (h : n ≠ 0) : floorLog2Div n 1 = n.log2 := by
  have hle : Nat.pow 2 n.log2 ≤ n * 1 := (Nat.mul_one n).symm ▸ Nat.log2_self_le h
  simp only [floorLog2Div, show Nat.log2 1 = 0 from rfl, Int.ofNat_zero, Int.sub_zero,
    Int.toNat_natCast, Int.toNat_neg_natCast, Nat.one_mul]
  exact if_pos hle

/-- Rounding a natural number: its leading bit decides about the exponent, and only the bits
that do not fit are rounded. -/
theorem nearest_natural {n : Nat} (h : n ≠ 0) :
    double.nearest n 1 =
      let e := leadingExponent n
      let m := roundDiv (n * Nat.pow 2 (-e).toNat) (Nat.pow 2 e.toNat)
      if m = Nat.pow 2 53 then (Nat.pow 2 52, e + 1) else (m, e) := by
  have hexponent : max double.minExponent ((n.log2 : Int) - (double.precision - 1 : Nat)) =
      leadingExponent n := by
    simp only [double, leadingExponent]
    omega
  simp only [BinaryFormat.nearest, if_neg h, floorLog2Div_one h, hexponent, Nat.one_mul]
  rfl

/-- Scaled by its exponent, a natural number has as many bits as a significand. -/
theorem scaled_bounds {n : Nat} (h : n ≠ 0) :
    Nat.pow 2 52 * Nat.pow 2 (leadingExponent n).toNat ≤
        n * Nat.pow 2 (-leadingExponent n).toNat ∧
      n * Nat.pow 2 (-leadingExponent n).toNat <
        Nat.pow 2 53 * Nat.pow 2 (leadingExponent n).toNat := by
  have hscaled : n * Nat.pow 2 (-leadingExponent n).toNat ≠ 0 :=
    Nat.mul_ne_zero h (Nat.two_pow_pos _).ne'
  have hlog : (n * Nat.pow 2 (-leadingExponent n).toNat).log2 =
      52 + (leadingExponent n).toNat := by
    rw [log2_mul_two_pow h]
    simp only [leadingExponent]
    omega
  obtain ⟨hlow, hhigh⟩ := (Nat.log2_eq_iff hscaled).1 hlog
  simp only [Nat.pow_eq] at hlow hhigh ⊢
  rw [← Nat.pow_add, ← Nat.pow_add]
  exact ⟨hlow, by rwa [show 53 + (leadingExponent n).toNat = 52 + (leadingExponent n).toNat + 1
    by omega]⟩

/-- The significand of a natural number, before it is carried over. -/
theorem roundDiv_scaled_bounds {n : Nat} (h : n ≠ 0) :
    Nat.pow 2 52 ≤ roundDiv (n * Nat.pow 2 (-leadingExponent n).toNat)
        (Nat.pow 2 (leadingExponent n).toNat) ∧
      roundDiv (n * Nat.pow 2 (-leadingExponent n).toNat)
        (Nat.pow 2 (leadingExponent n).toNat) ≤ Nat.pow 2 53 := by
  have hden : 0 < Nat.pow 2 (leadingExponent n).toNat := Nat.two_pow_pos _
  obtain ⟨hlow, hhigh⟩ := scaled_bounds h
  constructor
  · exact Nat.le_trans ((Nat.le_div_iff_mul_le hden).2 hlow) (div_le_roundDiv _ _)
  · exact Nat.le_trans (roundDiv_le_div_succ _ _) ((Nat.div_lt_iff_lt_mul hden).2 hhigh)

/-! ## Exact integers -/

/-- A natural number that has a canonical form is rounded to this form. -/
theorem nearest_eq_of_exact {n m : Nat} {e : Int} (hcanonical : double.Canonical m e)
    (hn : n ≠ 0) (h : n * Nat.pow 2 (-e).toNat = m * Nat.pow 2 e.toNat) :
    double.nearest n 1 = (m, e) := by
  obtain ⟨hsmall, -, -, hfull⟩ := hcanonical
  have hsignificand : Nat.pow 2 52 ≤ m := by
    rcases hfull with hfull | hleast
    · exact hfull
    · -- The least exponent leaves no room for an integer other than zero.
      exfalso
      have hshift : (-e).toNat = 1074 := hleast ▸ rfl
      have hscale : e.toNat = 0 := hleast ▸ rfl
      have hlarge : Nat.pow 2 53 ≤ n * Nat.pow 2 (-e).toNat :=
        Nat.le_trans (Nat.pow_le_pow_right Nat.two_pos (by omega))
          (Nat.le_mul_of_pos_left _ (Nat.pos_of_ne_zero hn))
      have hvalue : n * Nat.pow 2 (-e).toNat = m := by
        rw [h, hscale]
        exact Nat.mul_one m
      exact Nat.not_lt_of_le hlarge (hvalue ▸ hsmall)
  have hm : m ≠ 0 := Nat.ne_of_gt (Nat.lt_of_lt_of_le (Nat.two_pow_pos 52) hsignificand)
  have hlog : m.log2 = 52 := (Nat.log2_eq_iff hm).2 ⟨hsignificand, hsmall⟩
  have hexponent : leadingExponent n = e := by
    have hlogs := congrArg Nat.log2 h
    rw [log2_mul_two_pow hn, log2_mul_two_pow hm, hlog] at hlogs
    simp only [leadingExponent]
    omega
  have hround : roundDiv (n * Nat.pow 2 (-e).toNat) (Nat.pow 2 e.toNat) = m := by
    rw [h]
    exact roundDiv_mul_self m (Nat.two_pow_pos _)
  rw [nearest_natural hn]
  simp only [hexponent, hround]
  exact if_neg (Nat.ne_of_lt hsmall)

/-- Rounding a natural number of less than 1023 bits does not overflow. -/
theorem canonical_nearest {n : Nat} (h : n.log2 < 1023) :
    double.Canonical (double.nearest n 1).1 (double.nearest n 1).2 := by
  by_cases hn : n = 0
  · subst hn
    decide
  · have hleast : double.minExponent ≤ leadingExponent n := by
      simp only [double, leadingExponent]
      omega
    have hgreatest : leadingExponent n + 1 ≤ double.maxExponent := by
      simp only [double, leadingExponent]
      omega
    obtain ⟨hlow, hhigh⟩ := roundDiv_scaled_bounds hn
    rw [nearest_natural hn]
    dsimp only
    split
    case isTrue =>
      have hsmall : Nat.pow 2 52 < Nat.pow 2 53 := by decide
      exact ⟨hsmall, by omega, hgreatest, .inl (Nat.le_refl _)⟩
    case isFalse hfull =>
      exact ⟨Nat.lt_of_le_of_ne hhigh hfull, hleast, by omega, .inl hlow⟩

namespace Binary64

/-- The number itself, but the positive zero for either zero. -/
def unsignedZero (x : Binary64) : Binary64 := if x == 0 then 0 else x

theorem zero_eq : (0 : Binary64) = finite false 0 double.minExponent (by decide) := rfl

/-- A finite number is zero if its significand is, whatever its sign. -/
theorem finite_beq_zero (s : Bool) {m : Nat} {e : Int} (h : double.Canonical m e) :
    (finite s m e h == 0) = (m == 0) := by
  by_cases hm : m = 0
  · subst hm
    have hexponent : e = double.minExponent := h.2.2.2.resolve_left (by decide)
    subst hexponent
    simp [zero_eq, beq_def, Binary64.beq]
  · have hpositive : (m == 0) = false := beq_eq_false_iff_ne.2 hm
    simp only [zero_eq, beq_def, Binary64.beq, hpositive, Bool.false_and]

theorem ne_nan_of_isFinite {x : Binary64} (h : x.isFinite = true) : x ≠ nan := by
  rintro rfl
  contradiction

/-- Rounding never gives `nan`. -/
theorem ofNat_beq_self (n : Nat) : (ofNat n == ofNat n) = true := by
  rw [beq_self_iff, ofNat, ofRatio, ofParts]
  split <;> simp

/-- Taking the sign off a zero makes no difference to `==`. -/
theorem unsignedZero_beq {x : Binary64} (h : x ≠ nan) : (x.unsignedZero == x) = true := by
  unfold unsignedZero
  split
  case isTrue hzero => rw [beq_comm, hzero]
  case isFalse => exact beq_self_iff.2 h

/-- An integer is rounded by its magnitude, under its sign. -/
theorem ofInt_signedInt (s : Bool) {n : Nat} (h : n ≠ 0) :
    ofInt (signedInt s n) = ofRatio s n 1 := by
  have hpositive : 0 < n := Nat.pos_of_ne_zero h
  cases s with
  | false =>
    have hsign : decide ((n : Int) < 0) = false := decide_eq_false (by omega)
    simp [ofInt, signedInt, hsign]
  | true => simp [ofInt, signedInt, hpositive]

@[simp] theorem isFinite_unsignedZero (x : Binary64) :
    x.unsignedZero.isFinite = x.isFinite := by
  cases x with
  | nan | infinity => rfl
  | finite s m e h =>
    unfold unsignedZero
    split <;> rfl

@[simp] theorem unsignedZero_unsignedZero (x : Binary64) :
    x.unsignedZero.unsignedZero = x.unsignedZero := by
  by_cases hx : (x == 0) = true
  · have hzero : x.unsignedZero = 0 := if_pos hx
    rw [hzero]
    rfl
  · have hkept : x.unsignedZero = x := if_neg hx
    rw [hkept, hkept]

/-- A number that is equal to an integer is the one the integer is rounded to. -/
theorem ofInt_of_toInt? {x : Binary64} {n : Int} (h : x.toInt? = some n) :
    ofInt n = x.unsignedZero := by
  cases x with
  | nan | infinity => simp [toInt?] at h
  | finite s m e hcanonical =>
    simp only [toInt?, Option.ite_none_right_eq_some, Option.some.injEq] at h
    obtain ⟨hwhole, rfl⟩ := h
    have hquotient : m * Nat.pow 2 e.toNat / Nat.pow 2 (-e).toNat * Nat.pow 2 (-e).toNat =
        m * Nat.pow 2 e.toNat := Nat.div_mul_cancel (Nat.dvd_of_mod_eq_zero hwhole)
    simp only [binaryFraction]
    by_cases hm : m = 0
    · subst hm
      have hzero : signedInt s (0 * Nat.pow 2 e.toNat / Nat.pow 2 (-e).toNat) = 0 := by
        cases s <;> simp [signedInt]
      rw [hzero, unsignedZero, finite_beq_zero]
      rfl
    · have hnonzero : m * Nat.pow 2 e.toNat / Nat.pow 2 (-e).toNat ≠ 0 := by
        intro hzero
        rw [hzero, Nat.zero_mul] at hquotient
        exact Nat.mul_ne_zero hm (Nat.two_pow_pos _).ne' hquotient.symm
      rw [ofInt_signedInt s hnonzero]
      simp only [ofRatio, nearest_eq_of_exact hcanonical hnonzero hquotient, ofParts,
        dif_pos hcanonical]
      simp [unsignedZero, finite_beq_zero, hm]

/-- Only finite numbers are equal to an integer. -/
theorem isFinite_of_toInt? {x : Binary64} {n : Int} (h : x.toInt? = some n) :
    x.isFinite = true := by
  cases x with
  | nan | infinity => simp [toInt?] at h
  | finite => rfl

/-- Either zero is the integer zero. -/
theorem toInt?_of_beq_zero {x : Binary64} (h : (x == 0) = true) : x.toInt? = some 0 := by
  cases x with
  | nan | infinity => simp [zero_eq, beq_def, Binary64.beq] at h
  | finite s m e hcanonical =>
    rw [finite_beq_zero, beq_iff_eq] at h
    subst h
    cases s <;> simp [toInt?, binaryFraction, signedInt]

/-- Equal numbers are equal to the same integer. -/
theorem toInt?_eq_of_beq {x y : Binary64} (h : (x == y) = true) : x.toInt? = y.toInt? := by
  cases x with
  | nan => simp [beq_def, Binary64.beq] at h
  | infinity => cases y <;> first | rfl | simp [beq_def, Binary64.beq] at h
  | finite s m e hcanonical =>
    cases y with
    | nan | infinity => simp [beq_def, Binary64.beq] at h
    | finite t n f hcanonical' =>
      simp only [beq_def, Binary64.beq, Bool.and_eq_true, Bool.or_eq_true, beq_iff_eq] at h
      obtain ⟨⟨rfl, rfl⟩, rfl | rfl⟩ := h
      · rfl
      · cases s <;> cases t <;> simp [toInt?, binaryFraction, signedInt]

theorem isFinite_ofInt {n : Int} (h : n.natAbs.log2 < 1023) : (ofInt n).isFinite = true := by
  simp only [ofInt, ofRatio, ofParts, dif_pos (canonical_nearest h), isFinite]

end Binary64

end Conformance
