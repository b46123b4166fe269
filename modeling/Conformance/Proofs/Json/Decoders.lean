import Mathlib.Data.List.Forall2
import Conformance.Json.Decoder

/-!
# Conformance.Proofs.Json.Decoders

What is assumed of the decoders of a caller.

A decoder is free in what it says of trees that do not fit.  Of trees that do, it has to read
what is there, and nothing else matters for what becomes of a conforming value:

* `Decoders` — decoders for integers, numbers, strings, optional contents, lists, pairs and
  tables, each of the last four for any contents.
* `Decoders.Lawful` — integers are read exactly and never from a float, null is read as
  nothing, and items and properties are read one by one.
* `Decoders.lawful_json` — the decoders of `Conformance.Json.Decoder` are of this kind.
-/

namespace Conformance

/-- Decoders for the types that a caller may ask for. -/
structure Decoders where
  /-- Integers of 64 bits with sign. -/
  signed64 : Decoder Int
  float : Decoder Binary64
  string : Decoder String
  option : ∀ {α : Type}, Decoder α → Decoder (Option α)
  list : ∀ {α : Type}, Decoder α → Decoder (List α)
  pair : ∀ {α β : Type}, Decoder α → Decoder β → Decoder (α × β)
  map : ∀ {α : Type}, Decoder α → Decoder (List (String × α))

namespace Decoders

/-- The decoders read what is there. -/
structure Lawful (D : Decoders) : Prop where
  /-- An integer that fits into 64 bits is read exactly. -/
  signed64_integer : ∀ (n : Int) inRange, n < 0x8000000000000000 →
    D.signed64 (.number (.integer n inRange)) = .ok n
  /-- No integer is read from a float, even if it has no fraction. -/
  signed64_float : ∀ (x : Binary64) finite,
    ∃ failure, D.signed64 (.number (.float x finite)) = .error failure
  signed64_null : ∃ failure, D.signed64 .null = .error failure
  /-- Any number is read as the nearest binary64 number. -/
  float_number : ∀ n : JsonNumber, D.float (.number n) = .ok n.toBinary64
  string_string : ∀ s : String, D.string (.string s) = .ok s
  /-- Null is read as nothing. -/
  option_null : ∀ {α : Type} (d : Decoder α), D.option d .null = .ok none
  /-- What is there is read as it would be if it had to be there. -/
  option_some : ∀ {α : Type} {d : Decoder α} {j : Json} {a : α},
    j ≠ .null → d j = .ok a → D.option d j = .ok (some a)
  /-- Items are read one by one. -/
  list_array : ∀ {α : Type} {d : Decoder α} {items : List Json} {as : List α},
    List.Forall₂ (fun j a => d j = .ok a) items as → D.list d (.array items) = .ok as
  pair_array : ∀ {α β : Type} {d : Decoder α} {e : Decoder β} {j k : Json} {a : α} {b : β},
    d j = .ok a → e k = .ok b → D.pair d e (.array [j, k]) = .ok (a, b)
  /-- Contents are read one by one, each under its key. -/
  map_object : ∀ {α : Type} {d : Decoder α} {ps : List (String × Json)} {qs : List (String × α)},
    List.Forall₂ (fun p q => p.1 = q.1 ∧ d p.2 = .ok q.2) ps qs → D.map d (.object ps) = .ok qs

/-- The decoders of this library. -/
def json : Decoders where
  signed64 := .signed 64
  float := .float
  string := .string
  option := .option
  list := .list
  pair := .pair
  map := .map

end Decoders

namespace Decoder

variable {α β : Type} {d : Decoder α} {e : Decoder β}

/-- A run succeeds if every step does. -/
theorem mapM_eq_ok {f : α → Except DecodeFailure β} {as : List α} {bs : List β}
    (h : List.Forall₂ (fun a b => f a = .ok b) as bs) : as.mapM f = .ok bs := by
  induction h with
  | nil => rfl
  | cons ha _ ih =>
      rw [List.mapM_cons, ha, ih]
      rfl

/-- Optional contents that are there are read by the inner decoder. -/
theorem option_eq_ok {j : Json} {a : α} (hj : j ≠ .null) (h : d j = .ok a) :
    option d j = .ok (some a) := by
  cases j with
  | null => exact absurd rfl hj
  | _ =>
      rw [option, h]
      · rfl
      · exact hj

theorem pair_eq_ok {j k : Json} {a : α} {b : β} (hj : d j = .ok a) (hk : e k = .ok b) :
    pair d e (.array [j, k]) = .ok (a, b) := by
  rw [pair, hj, hk]
  rfl

/-- Contents are read in a run that leaves the keys alone. -/
theorem map_eq_ok {ps : List (String × Json)} {qs : List (String × α)}
    (h : List.Forall₂ (fun p q => p.1 = q.1 ∧ d p.2 = .ok q.2) ps qs) :
    map d (.object ps) = .ok qs := by
  rw [map]
  refine mapM_eq_ok (h.imp fun p q hpq => ?_)
  rw [hpq.2, hpq.1]
  rfl

end Decoder

/-- **The decoders of this library** read what is there. -/
theorem Decoders.lawful_json : json.Lawful where
  signed64_integer n inRange h := by
    refine if_pos ⟨?_, ?_⟩
    · simpa using inRange.1
    · simpa using Int.le_sub_one_of_lt h
  signed64_float x finite := ⟨_, rfl⟩
  signed64_null := ⟨_, rfl⟩
  float_number _ := rfl
  string_string _ := rfl
  option_null _ := rfl
  option_some := Decoder.option_eq_ok
  list_array := Decoder.mapM_eq_ok
  pair_array := Decoder.pair_eq_ok
  map_object := Decoder.map_eq_ok

end Conformance
