import Conformance.Proofs.Binary64.SafeIntegers
import Conformance.Proofs.Text.Numerals
import Conformance.Value.Basic

/-!
# Conformance.Proofs.Value.ArrayAccess

What arrays have under the keys that are indices, and under `length`.

The digits of an index are read back as the index, so different indices are different keys,
and none of them is `length`.  The other way round, a key denotes an index only if it is
spelt as that index is printed: a sign, a zero in front or anything else besides digits makes
it a key that no array has (`property_array_exact`).
-/

namespace Conformance.Value

/-- The digits of an index denote it. -/
@[simp] theorem arrayIndex?_toString (i : Nat) : arrayIndex? (toString i) = some i := by
  have hdigits : Nat.ofDigitChars 10 (toString i).toList 0 = i := by
    rw [Nat.toString_eq_repr, Nat.toList_repr, Nat.ofDigitChars_ten_toDigits]
  have hindex : arrayIndex? (toString i) =
      if toString (Nat.ofDigitChars 10 (toString i).toList 0) = toString i then
        some (Nat.ofDigitChars 10 (toString i).toList 0) else none := rfl
  rw [hindex, hdigits, if_pos rfl]

/-- Different indices are different keys. -/
theorem toString_injective : Function.Injective (toString : Nat → String) := by
  intro i j h
  rw [← Option.some_inj, ← arrayIndex?_toString i, h, arrayIndex?_toString]

/-- No index is spelt like `length`. -/
theorem toString_ne_length (i : Nat) : toString i ≠ "length" := by
  intro heq
  have hmem : 'l' ∈ Nat.toDigits 10 i := by
    rw [← Nat.toList_repr, ← Nat.toString_eq_repr, heq]
    decide
  exact absurd (Nat.isDigit_of_mem_toDigits (by decide) (by decide) hmem) (by decide)

/-- An index reads the item in its place, and there is nothing behind the last item. -/
theorem property_array_index (items : List Value) (i : Nat) :
    (array items).property (toString i) = (items[i]?).getD undefined := by
  simp only [property, if_neg (toString_ne_length i), arrayIndex?_toString, Option.bind_some]

theorem property_array_toString {items : List Value} {i : Nat} (hi : i < items.length) :
    (array items).property (toString i) = items[i] := by
  rw [property_array_index, List.getElem?_eq_getElem hi, Option.getD_some]

theorem property_array_length (items : List Value) :
    (array items).property "length" = number (.ofNat items.length) := by
  rw [property, if_pos rfl]

/-! ## Keys that read an item -/

/-- A key denotes an index exactly if it is its numeral. -/
theorem arrayIndex?_eq_some_iff {key : String} {i : Nat} :
    arrayIndex? key = some i ↔ Text.IsNumeral key i := by
  rw [Text.isNumeral_iff]
  constructor
  · intro h
    obtain ⟨hkey, hi⟩ := Option.ite_none_right_eq_some.1 h
    rw [← hkey, Option.some.inj hi]
  · rintro rfl
    exact arrayIndex?_toString i

/-- Keys other than `length` and the numerals of places in the array read nothing. -/
theorem property_array_eq_undefined {items : List Value} {key : String} (hkey : key ≠ "length")
    (h : ∀ i < items.length, ¬Text.IsNumeral key i) :
    (array items).property key = undefined := by
  rw [property, if_neg hkey]
  cases hindex : arrayIndex? key with
  | none => rfl
  | some i =>
      have hbeyond : items.length ≤ i :=
        Nat.le_of_not_lt fun hi => h i hi (arrayIndex?_eq_some_iff.1 hindex)
      rw [Option.bind_some, List.getElem?_eq_none hbeyond, Option.getD_none]

/-- In every array of the given length, whatever its items are, the key reads the item in
place `i`. -/
def ReadsItem (key : String) (length i : Nat) : Prop :=
  ∀ items : List Value, items.length = length → items[i]? = some ((array items).property key)

/-- Only places within the array are read. -/
theorem ReadsItem.lt {key : String} {length i : Nat} (h : ReadsItem key length i) :
    i < length := by
  have hitem := h (List.replicate length undefined) List.length_replicate
  obtain ⟨hi, -⟩ := List.getElem?_eq_some_iff.1 hitem
  rwa [List.length_replicate] at hi

/-- A key that reads the item in one place, whatever it is, spells out that place. -/
theorem ReadsItem.isNumeral {key : String} {length i : Nat} (h : ReadsItem key length i) :
    Text.IsNumeral key i := by
  -- In this array, no other item is like the one in place `i`.
  let items := (List.replicate length undefined).set i null
  have hlength : items.length = length := by
    rw [List.length_set, List.length_replicate]
  have hnull : (array items).property key = null := by
    have hitem := h items hlength
    rw [List.getElem?_set_self (by rw [List.length_replicate]; exact h.lt)] at hitem
    exact (Option.some.inj hitem).symm
  have hkey : key ≠ "length" := by
    rintro rfl
    rw [property_array_length] at hnull
    contradiction
  rw [property, if_neg hkey] at hnull
  cases hindex : arrayIndex? key with
  | none =>
      rw [hindex] at hnull
      contradiction
  | some j =>
      by_cases hji : j = i
      · exact arrayIndex?_eq_some_iff.1 (hji ▸ hindex)
      · rw [hindex, Option.bind_some, List.getElem?_set_ne (Ne.symm hji),
          List.getElem?_replicate] at hnull
        split at hnull <;> contradiction

/-- The keys that read an item are the numerals of the places in the array. -/
theorem readsItem_iff {key : String} {length i : Nat} :
    ReadsItem key length i ↔ i < length ∧ Text.IsNumeral key i := by
  refine ⟨fun h => ⟨h.lt, h.isNumeral⟩, fun ⟨hi, hkey⟩ items hitems => ?_⟩
  subst hitems
  rw [hkey.eq_toString, property_array_toString hi, List.getElem?_eq_getElem hi]

/-- **Array access** is exact: a key reads the item in a place of the array exactly if it is
the numeral of that place, so no two keys read the same item.  Under `length` there is the
number of items, itself as long as it is a safe integer.  All other keys read `undefined`:
numerals of places behind the last item, however large, and whatever is no numeral. -/
theorem property_array_exact (key : String) :
    (∀ length i, ReadsItem key length i ↔ i < length ∧ Text.IsNumeral key i) ∧
    (∀ items, (array items).property "length" = number (.ofNat items.length) ∧
      (items.length ≤ Binary64.maxSafeInteger →
        (Binary64.ofNat items.length).toInt? = some (items.length : Int))) ∧
    (∀ items, key ≠ "length" → (∀ i < items.length, ¬Text.IsNumeral key i) →
      (array items).property key = undefined) ∧
    ∀ other length i, ReadsItem key length i → ReadsItem other length i → key = other := by
  refine ⟨fun length i => readsItem_iff, fun items => ⟨property_array_length items, fun h => ?_⟩,
    fun items => property_array_eq_undefined, fun other length i hkey hother => ?_⟩
  · rw [← Binary64.ofInt_natCast]
    exact Binary64.toInt?_ofInt h
  · rw [hkey.isNumeral.eq_toString, hother.isNumeral.eq_toString]

/-- The keys `1` and `01` at an array of two. -/
theorem property_array_exact_pair :
    (ReadsItem "1" 2 1 ∧ ∀ other, ReadsItem other 2 1 → "1" = other) ∧
    ("01" ≠ "length" ∧ (∀ i < [null, bool true].length, ¬Text.IsNumeral "01" i) ∧
      (array [null, bool true]).property "01" = undefined) ∧
    [null, bool true].length ≤ Binary64.maxSafeInteger ∧
      (Binary64.ofNat [null, bool true].length).toInt? = some 2 := by
  have hitem : ReadsItem "1" 2 1 := ((property_array_exact "1").1 2 1).2 (by decide)
  have hpadded : ∀ i < [null, bool true].length, ¬Text.IsNumeral "01" i := by decide
  exact ⟨⟨hitem, fun other => (property_array_exact "1").2.2.2 other 2 1 hitem⟩,
    ⟨by decide, hpadded, (property_array_exact "01").2.2.1 _ (by decide) hpadded⟩,
    by decide, ((property_array_exact "length").2.1 _).2 (by decide)⟩

end Conformance.Value
