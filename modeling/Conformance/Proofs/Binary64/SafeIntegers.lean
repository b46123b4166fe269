import Conformance.Proofs.Binary64.Integers

/-!
# Conformance.Proofs.Binary64.SafeIntegers

Which integers are still themselves as binary64 numbers.

Up to `2 ^ 53` an integer has no more bits than a significand, so nothing is rounded
(`Binary64.toSafeInteger?_ofInt`), and two natural numbers are still two numbers
(`Binary64.ofNat_beq_ofNat`).  From `2 ^ 53 + 2` on, rounding may give another
integer, but never one that counts as safe (`Binary64.toSafeInteger?_ofInt_eq_none`): the
safe integers are numbers themselves, and `2 ^ 53 + 2` is already the number next to the
last one of them.  What is rounded to `2 ^ 53` is only the integer in between.
-/

namespace Conformance

open BinaryFormat (double)
open Binary64 (maxSafeInteger)

/-! ## Where the leading bit is -/

/-- A natural number up to `2 ^ 53` has a canonical form. -/
theorem exists_canonical {n : Nat} (hn : n ≠ 0) (h : n ≤ maxSafeInteger) :
    ∃ m e, double.Canonical m e ∧ n * Nat.pow 2 (-e).toNat = m * Nat.pow 2 e.toNat := by
  by_cases hfull : n = maxSafeInteger
  · subst hfull
    exact ⟨Nat.pow 2 52, 1, by decide, by decide⟩
  · have hlog : n.log2 < 53 := (Nat.log2_lt hn).2 (Nat.lt_of_le_of_ne h hfull)
    have hscale : (leadingExponent n).toNat = 0 := by
      simp only [leadingExponent]
      omega
    obtain ⟨hlow, hhigh⟩ := scaled_bounds hn
    rw [hscale] at hlow hhigh
    refine ⟨n * Nat.pow 2 (-leadingExponent n).toNat, leadingExponent n,
      ⟨hhigh, ?_, ?_, .inl hlow⟩, ?_⟩
    · simp only [leadingExponent, double]
      omega
    · simp only [leadingExponent, double]
      omega
    · rw [hscale]
      exact (Nat.mul_one _).symm

/-- A natural number above `2 ^ 53 + 1` is rounded to one above `2 ^ 53`. -/
theorem lt_nearest {n : Nat} (h : maxSafeInteger + 1 < n) :
    0 < (double.nearest n 1).2 ∧
      maxSafeInteger < (double.nearest n 1).1 * Nat.pow 2 (double.nearest n 1).2.toNat := by
  have hn : n ≠ 0 := by omega
  have hlog : 53 ≤ n.log2 := (Nat.le_log2 hn).2 (by simp only [maxSafeInteger] at h; omega)
  have hexponent : 1 ≤ leadingExponent n := by
    simp only [leadingExponent]
    omega
  have hlow := (roundDiv_scaled_bounds hn).1
  have hlarge {m : Nat} {e : Int} (hm : Nat.pow 2 52 ≤ m) (he : 2 ≤ e) :
      maxSafeInteger < m * Nat.pow 2 e.toNat :=
    calc maxSafeInteger
        < Nat.pow 2 52 * Nat.pow 2 2 := by decide
      _ ≤ m * Nat.pow 2 e.toNat :=
        Nat.mul_le_mul hm (Nat.pow_le_pow_right Nat.two_pos (by omega))
  rw [nearest_natural hn]
  dsimp only
  split
  case isTrue => exact ⟨by omega, hlarge (Nat.le_refl _) (by omega)⟩
  case isFalse =>
    refine ⟨by omega, ?_⟩
    by_cases hone : leadingExponent n = 1
    · have hhalf := div_le_roundDiv n 2
      rw [hone]
      change maxSafeInteger < roundDiv (n * 1) 2 * 2
      rw [Nat.mul_one]
      simp only [maxSafeInteger] at h ⊢
      omega
    · exact hlarge hlow (by omega)

namespace Binary64

/-! ## Safe integers -/

/-- An integer is made of its sign and its magnitude. -/
theorem signedInt_natAbs (n : Int) : signedInt (decide (n < 0)) n.natAbs = n := by
  simp only [signedInt, decide_eq_true_eq]
  split <;> omega

theorem natAbs_signedInt (s : Bool) (n : Nat) : (signedInt s n).natAbs = n := by
  cases s <;> simp [signedInt]

/-- Safe integers are numbers without rounding. -/
theorem toInt?_ofInt {n : Int} (h : n.natAbs ≤ maxSafeInteger) : (ofInt n).toInt? = some n := by
  by_cases hn : n = 0
  · subst hn
    exact toInt?_of_beq_zero rfl
  · have hne : n.natAbs ≠ 0 := Int.natAbs_ne_zero.2 hn
    obtain ⟨m, e, hcanonical, hvalue⟩ := exists_canonical hne h
    have hnumber : ofInt n = finite (n < 0) m e hcanonical := by
      simp only [ofInt, ofRatio, nearest_eq_of_exact hcanonical hne hvalue, ofParts,
        dif_pos hcanonical]
    have hden : 0 < Nat.pow 2 (-e).toNat := Nat.two_pow_pos _
    rw [hnumber]
    simp only [toInt?, binaryFraction, ← hvalue, Nat.mul_mod_left, if_true,
      Nat.mul_div_cancel _ hden, signedInt_natAbs]

/-- **Safe integers**: up to `2 ^ 53` an integer is not changed by rounding. -/
theorem toSafeInteger?_ofInt {n : Int} (h : n.natAbs ≤ maxSafeInteger) :
    (ofInt n).toSafeInteger? = some n := by
  rw [toSafeInteger?, toInt?_ofInt h, Option.filter_some_pos (by simpa using h)]

theorem ofInt_natCast (n : Nat) : ofInt n = ofNat n := by
  have hsign : decide ((n : Int) < 0) = false := decide_eq_false (by omega)
  rw [ofInt, hsign, Int.natAbs_natCast, ofNat]

/-- Up to `2 ^ 53`, natural numbers are equal as numbers when they are equal. -/
theorem ofNat_beq_ofNat {m n : Nat} (hm : m ≤ maxSafeInteger) (hn : n ≤ maxSafeInteger) :
    (ofNat m == ofNat n) = (m == n) := by
  have hexact {k : Nat} (hk : k ≤ maxSafeInteger) : (ofNat k).toInt? = some (k : Int) := by
    rw [← ofInt_natCast, toInt?_ofInt (by simpa using hk)]
  rw [Bool.eq_iff_iff, @beq_iff_eq Nat]
  constructor
  · intro h
    have hsame := toInt?_eq_of_beq h
    rw [hexact hm, hexact hn, Option.some_inj] at hsame
    exact Int.ofNat_inj.1 hsame
  · rintro rfl
    exact ofNat_beq_self m

/-- A number without digits behind the point is equal to an integer. -/
theorem toInt?_finite_of_nonneg (s : Bool) {m : Nat} {e : Int} (h : double.Canonical m e)
    (he : 0 ≤ e) : (finite s m e h).toInt? = some (signedInt s (m * Nat.pow 2 e.toNat)) := by
  have hscale : Nat.pow 2 (-e).toNat = 1 := by
    rw [show (-e).toNat = 0 by omega]
  simp only [toInt?, binaryFraction, hscale, Nat.mod_one, if_true, Nat.div_one]

/-- **Other integers**: beyond `2 ^ 53 + 1`, rounding does not lead back to the safe
ones. -/
theorem toSafeInteger?_ofInt_eq_none {n : Int} (h : maxSafeInteger + 1 < n.natAbs) :
    (ofInt n).toSafeInteger? = none := by
  obtain ⟨hexponent, hlarge⟩ := lt_nearest h
  simp only [ofInt, ofRatio, ofParts]
  split
  case isTrue hcanonical =>
    rw [toSafeInteger?, toInt?_finite_of_nonneg _ hcanonical hexponent.le]
    refine Option.filter_some_neg ?_
    rw [natAbs_signedInt]
    exact decide_eq_false (Nat.not_le_of_lt hlarge)
  case isFalse => rfl

end Binary64

end Conformance
