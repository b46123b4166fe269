import Conformance.Proofs.Binary64.SafeIntegers
import Conformance.Proofs.Json.Decoders
import Conformance.Proofs.Matcher.Decoding

/-!
# Conformance.Proofs.Matcher.IntegerDecoding

Integers that become numbers of a value and are decoded as integers again.

The number nearest to an integer need not be equal to it.  What decoding makes of a number
depends on whether it is a safe integer: if so, it is written without a fraction and read as
that integer, and if not, it is written as a float, which no integer is read from.  So an
integer either comes back or is refused (`Matcher.decode_integer`), but for the ones next
to the safe integers, which are rounded to the last of these
(`Matcher.decode_integer_rounded`).  Of the decoder no more is needed than that it reads
integers exactly and refuses floats (`Decoders.Lawful`).
-/

namespace Conformance

open Binary64 (maxSafeInteger)

/-! ## Reading numbers as integers -/

namespace Binary64

/-- Safe integers are written without a fraction. -/
theorem toJson_of_safe {x : Binary64} {n : Int} (h : x.toSafeInteger? = some n) :
    ∃ inRange, x.toJson = .number (.integer n inRange) := by
  have hbound := natAbs_le_of_toSafeInteger? h
  simp only [maxSafeInteger] at hbound
  unfold toJson
  split
  case h_1 k hk =>
    obtain rfl : k = n := Option.some.inj (hk.symm.trans h)
    exact ⟨by omega, rfl⟩
  case h_2 hnone => simp [hnone] at h

/-- All other numbers are written as they are. -/
theorem toJson_of_not_safe {x : Binary64} (h : x.toSafeInteger? = none) :
    x.toJson = .ofBinary64 x := by
  unfold toJson
  split
  case h_1 k hk => simp [hk] at h
  case h_2 => rfl

end Binary64

namespace Decoders.Lawful

variable {D : Decoders} {x : Binary64}

/-- Safe integers are well inside of 64 bits. -/
theorem signed64_toJson_of_safe (hD : D.Lawful) {n : Int} (h : x.toSafeInteger? = some n) :
    D.signed64 x.toJson = .ok n := by
  obtain ⟨inRange, hj⟩ := Binary64.toJson_of_safe h
  have hsafe := Binary64.natAbs_le_of_toSafeInteger? h
  simp only [maxSafeInteger] at hsafe
  rw [hj]
  exact hD.signed64_integer n inRange (by omega)

/-- All other numbers are written as floats or, if they are infinite, as null. -/
theorem signed64_toJson_of_not_safe (hD : D.Lawful) (h : x.toSafeInteger? = none) :
    ∃ failure, D.signed64 x.toJson = .error failure := by
  rw [Binary64.toJson_of_not_safe h, Json.ofBinary64]
  split
  case isTrue hfinite => exact hD.signed64_float x hfinite
  case isFalse => exact hD.signed64_null

end Decoders.Lawful

/-! ## Integers -/

namespace Matcher

/-- A number conforms in any case, so what becomes of it is up to the decoder. -/
theorem decode_number {α : Type} (m : Matcher) (x : Binary64) (decoder : Decoder α) :
    m.decode (.number x) .number decoder =
      (decoder x.toJson).mapError fun failure => .json (.undecodable failure) := by
  have hconforms : m.require (.number x) .number = .ok () := by
    rw [require_eq_match, firstPath?_eq_head?]
    rfl
  rw [decode_eq_bind, hconforms]
  exact result_decodeValue rfl decoder

/-- **Integers come back** or are refused, by every decoder that reads integers exactly and
refuses floats: up to `2 ^ 53` they are decoded to what they were, and beyond `2 ^ 53 + 1`
they are not decoded at all.  It makes no difference if the integer was one of a JSON
tree. -/
theorem decode_integer {n : Int} (hn : n.natAbs ≠ maxSafeInteger + 1) (m : Matcher) :
    Decoders.json.Lawful ∧
    ∀ D : Decoders, D.Lawful →
      (∀ inRange, Value.ofJson (.number (.integer n inRange)) = .number (.ofInt n)) ∧
      (∀ k, m.decode (.number (.ofInt n)) .number D.signed64 = .ok k → k = n) ∧
      (n.natAbs ≤ maxSafeInteger →
        m.decode (.number (.ofInt n)) .number D.signed64 = .ok n) ∧
      (maxSafeInteger < n.natAbs →
        ∃ failure, m.decode (.number (.ofInt n)) .number D.signed64 =
          .error (.json (.undecodable failure))) := by
  refine ⟨Decoders.lawful_json, fun D hD => ?_⟩
  have hsafe (h : n.natAbs ≤ maxSafeInteger) :
      m.decode (.number (.ofInt n)) .number D.signed64 = .ok n := by
    rw [decode_number, hD.signed64_toJson_of_safe (Binary64.toSafeInteger?_ofInt h)]
    rfl
  have hlarge (h : maxSafeInteger < n.natAbs) :
      ∃ failure, m.decode (.number (.ofInt n)) .number D.signed64 =
        .error (.json (.undecodable failure)) := by
    obtain ⟨failure, hfailure⟩ := hD.signed64_toJson_of_not_safe
      (Binary64.toSafeInteger?_ofInt_eq_none (n := n) (by omega))
    rw [decode_number, hfailure]
    exact ⟨failure, rfl⟩
  refine ⟨fun _ => rfl, fun k hk => ?_, hsafe, hlarge⟩
  rcases Nat.lt_or_ge maxSafeInteger n.natAbs with h | h
  · obtain ⟨failure, hfailure⟩ := hlarge h
    rw [hfailure] at hk
    contradiction
  · rw [hsafe h] at hk
    exact (Except.ok.inj hk).symm

/-- The least safe integer, and the first one behind the gap. -/
theorem decode_integer_at_bounds :
    Decoders.json.Lawful ∧
    ((-9007199254740992 : Int).natAbs ≠ maxSafeInteger + 1 ∧
      ({} : Matcher).decode (.number (.ofInt (-9007199254740992))) .number (.signed 64) =
        .ok (-9007199254740992)) ∧
    (9007199254740994 : Int).natAbs ≠ maxSafeInteger + 1 ∧
      ∃ failure, ({} : Matcher).decode (.number (.ofInt 9007199254740994)) .number
        (.signed 64) = .error (.json (.undecodable failure)) := by
  have hleast := decode_integer (n := -9007199254740992) (by decide) {}
  have hbehind := decode_integer (n := 9007199254740994) (by decide) {}
  have hlawful : Decoders.json.Lawful := hleast.1
  exact ⟨hlawful, ⟨by decide, (hleast.2 _ hlawful).2.2.1 (by decide)⟩,
    by decide, (hbehind.2 _ hlawful).2.2.2 (by decide)⟩

/-- The integer behind the last safe one is rounded to it and passes for it. -/
theorem decode_integer_rounded :
    ¬∀ (n : Int) (m : Matcher), -0x8000000000000000 ≤ n → n < 0x8000000000000000 →
      ∀ k, m.decode (.number (.ofInt n)) .number (.signed 64) = .ok k → k = n := by
  intro h
  have hsafe : (Binary64.ofInt 9007199254740993).toSafeInteger? = some 9007199254740992 := by
    decide
  have hdecode : ({} : Matcher).decode (.number (.ofInt 9007199254740993)) .number (.signed 64) =
      .ok 9007199254740992 := by
    have hread : Decoder.signed 64 (Binary64.ofInt 9007199254740993).toJson =
        .ok 9007199254740992 :=
      Decoders.lawful_json.signed64_toJson_of_safe hsafe
    rw [decode_number, hread]
    rfl
  exact absurd (h 9007199254740993 {} (by decide) (by decide) _ hdecode) (by decide)

end Matcher

end Conformance
