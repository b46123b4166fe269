import Mathlib.Data.List.Basic

/-!
# Conformance.Proofs.Text.Numerals

Decimal numerals: the one way to write a natural number with digits only and without a
zero in front of other digits.

* `IsNumeral` — said of a string by its characters, without a printer.
* `isNumeral_iff` — what is printed for a number is its numeral, and nothing else is.
-/

namespace Conformance.Text

/-- The string is the decimal numeral of the number: digits only, at least one of them,
and no zero in front of other digits. -/
structure IsNumeral (s : String) (n : Nat) : Prop where
  nonempty : s ≠ ""
  digits : ∀ c ∈ s.toList, c.isDigit = true
  noLeadingZero : s.toList.head? = some '0' → s = "0"
  value : Nat.ofDigitChars 10 s.toList 0 = n

instance (s : String) (n : Nat) : Decidable (IsNumeral s n) :=
  decidable_of_iff (s ≠ "" ∧ s.toList.all Char.isDigit = true ∧
      (s.toList.head? = some '0' → s = "0") ∧ Nat.ofDigitChars 10 s.toList 0 = n)
    ⟨fun ⟨hne, hdigits, hzero, hvalue⟩ => ⟨hne, List.all_eq_true.1 hdigits, hzero, hvalue⟩,
      fun h => ⟨h.nonempty, List.all_eq_true.2 h.digits, h.noLeadingZero, h.value⟩⟩

/-! ## Digits -/

/-- What a digit counts in a number. -/
def digitValue (c : Char) : Nat := c.toNat - '0'.toNat

theorem digitValue_lt {c : Char} (h : c.isDigit = true) : digitValue c < 10 := by
  have hupper : c.toNat ≤ 57 := (Char.isDigit_iff_toNat.1 h).2
  have hzero : '0'.toNat = 48 := rfl
  rw [digitValue, hzero]
  omega

/-- A digit is what its value is printed as. -/
theorem digitChar_digitValue {c : Char} (h : c.isDigit = true) :
    Nat.digitChar (digitValue c) = c := by
  apply Char.toNat_inj.1
  rw [Nat.toNat_digitChar_of_lt_ten (digitValue_lt h), digitValue]
  exact Nat.add_sub_of_le (Char.isDigit_iff_toNat.1 h).1

/-! ## Printing -/

/-- Digits behind a positive number are the last digits of a larger one. -/
theorem toDigits_append {n : Nat} (hn : 0 < n) {cs : List Char}
    (hcs : ∀ c ∈ cs, c.isDigit = true) :
    Nat.toDigits 10 n ++ cs = Nat.toDigits 10 (Nat.ofDigitChars 10 cs n) := by
  induction cs generalizing n with
  | nil => rw [List.append_nil, Nat.ofDigitChars_nil]
  | cons c cs ih =>
      obtain ⟨hc, hcs⟩ := List.forall_mem_cons.1 hcs
      have hlast : Nat.toDigits 10 n ++ [c] = Nat.toDigits 10 (10 * n + digitValue c) := by
        rw [← Nat.toDigits_append_toDigits (by decide) hn (digitValue_lt hc),
          Nat.toDigits_of_lt_base (digitValue_lt hc), digitChar_digitValue hc]
      have hpos : 0 < 10 * n + digitValue c := by omega
      calc Nat.toDigits 10 n ++ c :: cs
          = Nat.toDigits 10 n ++ [c] ++ cs := by rw [List.append_assoc]; rfl
        _ = Nat.toDigits 10 (Nat.ofDigitChars 10 cs (10 * n + digitValue c)) := by
          rw [hlast, ih hpos hcs]
        _ = Nat.toDigits 10 (Nat.ofDigitChars 10 (c :: cs) n) := by
          rw [Nat.ofDigitChars_cons, digitValue]

/-- Positive numbers are printed without a zero in front. -/
theorem head?_toDigits_ne_zero {n : Nat} (hn : n ≠ 0) :
    (Nat.toDigits 10 n).head? ≠ some '0' := by
  induction n using Nat.base_induction 10 (by decide) with
  | single m hm =>
      rw [Nat.toDigits_of_lt_base hm]
      simpa using hn
  | digit m k hk hm ih =>
      rw [← Nat.toDigits_append_toDigits (by decide) hm hk,
        List.head?_append_of_ne_nil _ Nat.toDigits_ne_nil]
      exact ih (Nat.ne_of_gt hm)

/-- A number is printed as a numeral of itself. -/
theorem isNumeral_toString (n : Nat) : IsNumeral (toString n) n where
  nonempty := Nat.repr_ne_empty
  digits c hc := by
    rw [Nat.toString_eq_repr, Nat.toList_repr] at hc
    exact Nat.isDigit_of_mem_toDigits (by decide) (by decide) hc
  noLeadingZero h := by
    rw [Nat.toString_eq_repr, Nat.toList_repr] at h
    by_cases hn : n = 0
    · rw [hn]
      rfl
    · exact absurd h (head?_toDigits_ne_zero hn)
  value := by rw [Nat.toString_eq_repr, Nat.toList_repr, Nat.ofDigitChars_ten_toDigits]

/-- A number has one numeral. -/
theorem IsNumeral.eq_toString {s : String} {n : Nat} (h : IsNumeral s n) : s = toString n := by
  obtain ⟨hne, hdigits, hzero, rfl⟩ := h
  apply String.toList_inj.1
  rw [Nat.toString_eq_repr, Nat.toList_repr]
  cases hs : s.toList with
  | nil => exact absurd (String.toList_eq_nil_iff.1 hs) hne
  | cons c cs =>
      rw [hs] at hdigits hzero
      obtain ⟨hc, hcs⟩ := List.forall_mem_cons.1 hdigits
      by_cases hc0 : c = '0'
      · -- A zero in front stands alone.
        obtain rfl : s = "0" := hzero (by rw [hc0]; rfl)
        rw [← hs]
        rfl
      · have hpos : 0 < digitValue c := by
          refine Nat.pos_of_ne_zero fun hvalue => hc0 ?_
          rw [← digitChar_digitValue hc, hvalue]
          rfl
        have happend := toDigits_append hpos hcs
        rw [Nat.toDigits_of_lt_base (digitValue_lt hc), digitChar_digitValue hc] at happend
        rw [Nat.ofDigitChars_cons, Nat.mul_zero, Nat.zero_add]
        exact happend

/-- **Numerals** are what is printed for a number. -/
theorem isNumeral_iff {s : String} {n : Nat} : IsNumeral s n ↔ s = toString n :=
  ⟨IsNumeral.eq_toString, fun h => h ▸ isNumeral_toString n⟩

end Conformance.Text
