import Mathlib.Data.List.Enum
import Mathlib.Data.List.Sigma
import Conformance.Proofs.Binary64.SafeIntegers
import Conformance.Proofs.Schema.Declarations
import Conformance.Proofs.Value.ArrayAccess

/-!
# Conformance.Proofs.Schema.FixedLength

Three descriptions of the arrays with a fixed number of items: a tuple, an object with the
indices and `length` for its keys, and, if the elements are all the same, an array of one
kind of item that happens to have this many.

They look at different things.  A tuple goes through the items and an object schema through
the elements, where an item that is missing reads as `undefined` and may well conform.  What
makes them agree is the length, which each of them asks for in the end: once it is right,
items and elements are paired in the same way.

* `accepts_tuple_iff`, `accepts_positional_iff` — the length and the pairs, for a tuple and
  for the object schema (`positional`).
* `failures_tuple_of_same` — a tuple with one element over and over has the failures of an
  array of it, path by path, if the length is right.
* `Matcher.tuple_descriptions_agree` — the statement for tuples and arrays that are short
  enough for their lengths to be numbers themselves.
-/

namespace Conformance

open Binary64 (maxSafeInteger)

namespace Schema

variable {elements : List Schema} {items : List Value}

/-! ## Tuples -/

/-- A tuple asks for its length, and then for each item. -/
theorem accepts_tuple_iff (h : 2 ≤ elements.length) :
    (array elements).accepts (.array items) = true ↔
      items.length = elements.length ∧
        ∀ i (_ : i < elements.length) (_ : i < items.length),
          elements[i].accepts items[i] = true := by
  match elements, h with
  | e₁ :: e₂ :: es, _ =>
      rw [accepts_tuple, all₂_iff_forall₂, List.forall₂_iff_get, eq_comm]
      rfl

/-! ## Indices as keys -/

/-- What a tuple asks for, key by key: each element under its index, and how many they are
under `length`. -/
def positionalFields (elements : List Schema) : List (String × Schema) :=
  (elements.zipIdx.map fun e => (toString e.2, e.1)) ++
    [("length", literal (.number (.ofNat elements.length)))]

/-- The object schema for the arrays that a tuple describes. -/
def positional (elements : List Schema) : Declarations := .ofList (positionalFields elements)

theorem nodup_keys_positionalFields (elements : List Schema) :
    ((positionalFields elements).map (·.1)).Nodup := by
  have hindices : ((elements.zipIdx.map Prod.snd).map (toString : Nat → String)).Nodup :=
    (List.nodup_zipIdx_map_snd elements).map Value.toString_injective
  have hlength : "length" ∉ (elements.zipIdx.map Prod.snd).map (toString : Nat → String) := by
    intro hmem
    obtain ⟨i, -, hi⟩ := List.mem_map.1 hmem
    exact Value.toString_ne_length i hi
  rw [List.map_map] at hindices hlength
  rw [positionalFields, List.map_append, List.map_map, List.map_singleton,
    ← List.concat_eq_append, List.nodup_concat]
  exact ⟨hlength, hindices⟩

/-- Missing items count as `undefined`, so only the length is in their way. -/
theorem accepts_positional_iff (helements : elements.length ≤ maxSafeInteger)
    (hitems : items.length ≤ maxSafeInteger) :
    (positional elements).toSchema.accepts (.array items) = true ↔
      items.length = elements.length ∧
        ∀ i (_ : i < elements.length),
          elements[i].accepts ((items[i]?).getD .undefined) = true := by
  have hfields : (positional elements).fields = positionalFields elements :=
    Declarations.fields_ofList (nodup_keys_positionalFields elements)
  have hindices : (∀ f ∈ elements.zipIdx.map fun e => (toString e.2, e.1),
      f.2.accepts ((Value.array items).property f.1) = true) ↔
        ∀ i (_ : i < elements.length),
          elements[i].accepts ((items[i]?).getD .undefined) = true := by
    rw [List.forall_mem_map, List.forall_mem_zipIdx']
    simp only [Value.property_array_index]
  have hlength : (literal (.number (.ofNat elements.length))).accepts
      ((Value.array items).property "length") = true ↔ items.length = elements.length := by
    rw [Value.property_array_length, accepts_literal, Literal.accepts,
      Binary64.ofNat_beq_ofNat helements hitems, beq_iff_eq, eq_comm]
  rw [Declarations.toSchema, hfields, accepts_object, Value.hasProperties, Bool.true_and,
    List.all_eq_true, positionalFields, List.forall_mem_append, List.forall_mem_singleton,
    hindices, hlength, and_comm]

/-- An object schema with `length` and all indices describes the same arrays. -/
theorem accepts_tuple_eq_accepts_positional (h : 2 ≤ elements.length)
    (helements : elements.length ≤ maxSafeInteger) (hitems : items.length ≤ maxSafeInteger) :
    (array elements).accepts (.array items) =
      (positional elements).toSchema.accepts (.array items) := by
  rw [Bool.eq_iff_iff, accepts_tuple_iff h, accepts_positional_iff helements hitems]
  refine and_congr_right fun hlength => forall₂_congr fun i hi => ?_
  have hpresent : i < items.length := hlength ▸ hi
  rw [List.getElem?_eq_getElem hpresent, Option.getD_some]
  exact forall_prop_of_true hpresent

/-! ## One element over and over -/

variable {s : Schema}

/-- With one element over and over, only the length tells a tuple from an array of it. -/
theorem accepts_tuple_of_same (h : 2 ≤ elements.length) (hsame : ∀ e ∈ elements, e = s) :
    (array elements).accepts (.array items) = true ↔
      items.length = elements.length ∧ (arrayOf s).accepts (.array items) = true := by
  rw [accepts_tuple_iff h, accepts_arrayOf, List.all_eq_true, List.forall_mem_iff_getElem]
  refine and_congr_right fun hlength => ⟨fun hall i hi => ?_, fun hall i hi hi' => ?_⟩
  · have hi' : i < elements.length := hlength ▸ hi
    rw [← hsame _ (List.getElem_mem hi')]
    exact hall i hi' hi
  · rw [hsame _ (List.getElem_mem hi)]
    exact hall i hi'

/-- The length does not count as a mismatch if it is right. -/
theorem tupleFailures_of_length_eq {elements : List Failures}
    (hlength : items.length = elements.length) (path : String) :
    tupleFailures elements items path =
      items.zipIdx.flatMap (positionFailures elements path) := by
  have hpasses : failureUnless (items.length == elements.length) path = [] :=
    if_pos (beq_iff_eq.2 hlength)
  simp only [tupleFailures, hpasses]
  split
  case isTrue hempty => exact (List.isEmpty_iff.1 hempty).symm
  case isFalse => rfl

/-- Once the length is right, both have the same failures. -/
theorem failures_tuple_of_same (h : 2 ≤ elements.length) (hsame : ∀ e ∈ elements, e = s)
    (hlength : items.length = elements.length) (path : String) :
    (array elements).failures (.array items) path =
      (arrayOf s).failures (.array items) path := by
  have htuple : arrayFailures (elements.map failures) items path =
      tupleFailures (elements.map failures) items path := by
    match elements, h with
    | _ :: _ :: _, _ => rfl
  rw [failures_array, htuple,
    tupleFailures_of_length_eq (hlength.trans (List.length_map _).symm), arrayOf, failures_array]
  refine List.flatMap_congr fun item hitem => ?_
  have hi : item.2 < elements.length := hlength ▸ (List.mem_zipIdx' hitem).1
  have helement : (elements.map failures)[item.2]? = some s.failures := by
    rw [List.getElem?_map, List.getElem?_eq_getElem hi, hsame _ (List.getElem_mem hi),
      Option.map_some]
  simp only [positionFailures, helement]

end Schema

/-! ## Main statement -/

open Schema

/-- **Fixed length**: whether an array conforms to a tuple is what the object schema with the
indices and `length` for its keys says as well.  If all elements are the same, it is also
what an array of that element says together with the length, and of arrays of this length
both report the same paths. -/
theorem Matcher.tuple_descriptions_agree {elements : List Schema} {items : List Value}
    (h : 2 ≤ elements.length) (helements : elements.length ≤ maxSafeInteger)
    (hitems : items.length ≤ maxSafeInteger) :
    (∀ m : Matcher, m.accepts (.array items) (.array elements) =
      m.accepts (.array items) (positional elements).toSchema) ∧
    ∀ s, (∀ e ∈ elements, e = s) →
      (∀ m : Matcher, m.accepts (.array items) (.array elements) = true ↔
        items.length = elements.length ∧ m.accepts (.array items) (arrayOf s) = true) ∧
      (items.length = elements.length → ∀ m : Matcher,
        m.paths (.array items) (.array elements) = m.paths (.array items) (arrayOf s)) := by
  refine ⟨fun m => ?_, fun s hsame => ⟨fun m => ?_, fun hlength m => ?_⟩⟩
  · rw [accepts_matcher, accepts_matcher]
    exact accepts_tuple_eq_accepts_positional h helements hitems
  · rw [accepts_matcher, accepts_matcher]
    exact accepts_tuple_of_same h hsame
  · rw [paths, paths, pathsFrom_eq_wanted, pathsFrom_eq_wanted,
      failures_tuple_of_same h hsame hlength]

/-- A name that may be missing, twice. -/
def Schema.twoNames : List Schema :=
  [.predicate (.orUndefined .string), .predicate (.orUndefined .string)]

theorem Schema.same_twoNames : ∀ e ∈ twoNames, e = .predicate (.orUndefined .string) := by
  simp [twoNames]

/-- An item that is `undefined` is there, and one that only reads so is not. -/
theorem Matcher.tuple_descriptions_agree_twoNames :
    ({} : Matcher).accepts (.array [.string "Ada", .undefined]) (positional twoNames).toSchema =
        true ∧
      ({} : Matcher).accepts (.array [.string "Ada"]) (positional twoNames).toSchema = false ∧
      ({} : Matcher).paths (.array [.null, .undefined]) (.array twoNames) =
        ({} : Matcher).paths (.array [.null, .undefined])
          (.arrayOf (.predicate (.orUndefined .string))) := by
  refine ⟨?_, ?_, ?_⟩
  · rw [← (tuple_descriptions_agree (by decide) (by decide) (by decide)).1]
    decide
  · rw [← (tuple_descriptions_agree (by decide) (by decide) (by decide)).1]
    decide
  · exact ((tuple_descriptions_agree (by decide) (by decide) (by decide)).2 _ same_twoNames).2
      rfl {}

end Conformance
