import Mathlib.Data.List.Perm.Basic
import Conformance.Proofs.Lists
import Conformance.Proofs.Schema.Typing

/-!
# Conformance.Proofs.Schema.Congruence

What holds between the parts of two schemas, or of two values, holds between the
wholes.  Two lists of paths may be compared in any way that survives putting lists
one behind the other and that tells no failures from some (`PathRelation`).

* `PathRelation.arrayFailures` — elements that answer in a related way to related
  items do so for arrays of them.  The length of a tuple is looked at on both
  sides or on none, since the relation keeps apart no failures and some.
* `sameType_array`, `sameType_object`, `sameType_object_of_perm` — types with the
  same values again give types with the same values.  An object type loses nothing
  when a property changes its place or its group.
-/

namespace Conformance

/-! ## Related failures -/

/-- A way to compare lists of paths.  Equal lists are related, related lists may be
put behind related ones, and no failures are related to no failures only. -/
structure PathRelation (Q : List String → List String → Prop) : Prop where
  refl : ∀ paths, Q paths paths
  append : ∀ {xs xs' ys ys'}, Q xs xs' → Q ys ys' → Q (xs ++ ys) (xs' ++ ys')
  isEmpty_eq : ∀ {xs xs'}, Q xs xs' → xs.isEmpty = xs'.isEmpty

/-- Failures that are related wherever the values are. -/
def Failures.Related (R : Value → Value → Prop) (Q : List String → List String → Prop)
    (f g : Failures) : Prop :=
  ∀ ⦃v w : Value⦄, R v w → ∀ path, Q (f v path) (g w path)

namespace PathRelation

/-- The same paths in the same order. -/
theorem equal : PathRelation (· = ·) where
  refl _ := rfl
  append hx hy := by rw [hx, hy]
  isEmpty_eq h := by rw [h]

/-- The same paths in any order. -/
theorem perm : PathRelation List.Perm where
  refl := List.Perm.refl
  append hx hy := hx.append hy
  isEmpty_eq h := h.isEmpty_eq

variable {Q : List String → List String → Prop} {R : Value → Value → Prop}

theorem flatMap (hQ : PathRelation Q) {α β : Type} {f : α → List String}
    {g : β → List String} {as : List α} {bs : List β}
    (h : List.Forall₂ (fun a b => Q (f a) (g b)) as bs) : Q (as.flatMap f) (bs.flatMap g) := by
  induction h with
  | nil => exact hQ.refl []
  | cons hab _ ih =>
      rw [List.flatMap_cons, List.flatMap_cons]
      exact hQ.append hab ih

/-- Related items fail alike at a position, also behind the last element. -/
theorem positionFailures (hQ : PathRelation Q)
    (hR : ∀ {v w}, R v w → v.isUndefined = w.isUndefined) {elements elements' : List Failures}
    (helements : List.Forall₂ (Failures.Related R Q) elements elements') {v w : Value}
    (hvw : R v w) (index : Nat) (path : String) :
    Q (Conformance.positionFailures elements path (v, index))
      (Conformance.positionFailures elements' path (w, index)) := by
  have hrel := forall₂_getElem? helements index
  simp only [Conformance.positionFailures]
  generalize elements[index]? = element, elements'[index]? = element' at hrel ⊢
  cases hrel with
  | none =>
      rw [hR hvw]
      exact hQ.refl _
  | some he => exact he hvw _

/-- Tuples with related items look at their lengths both or not at all. -/
theorem tupleFailures (hQ : PathRelation Q)
    (hR : ∀ {v w}, R v w → v.isUndefined = w.isUndefined) {elements elements' : List Failures}
    (helements : List.Forall₂ (Failures.Related R Q) elements elements')
    {items items' : List Value} (hitems : List.Forall₂ R items items') (path : String) :
    Q (Conformance.tupleFailures elements items path)
      (Conformance.tupleFailures elements' items' path) := by
  have hinner : Q (items.zipIdx.flatMap (Conformance.positionFailures elements path))
      (items'.zipIdx.flatMap (Conformance.positionFailures elements' path)) := by
    refine hQ.flatMap ((forall₂_zipIdx hitems 0).imp ?_)
    rintro ⟨v, i⟩ ⟨w, j⟩ ⟨hvw, rfl⟩
    exact hQ.positionFailures hR helements hvw i path
  simp only [Conformance.tupleFailures, hQ.isEmpty_eq hinner, hitems.length_eq,
    helements.length_eq]
  split
  · exact hQ.refl _
  · exact hinner

/-- **Arrays**: elements that answer in a related way to related items give arrays that
do so. -/
theorem arrayFailures (hQ : PathRelation Q)
    (hR : ∀ {v w}, R v w → v.isUndefined = w.isUndefined) {elements elements' : List Failures}
    (helements : List.Forall₂ (Failures.Related R Q) elements elements')
    {items items' : List Value} (hitems : List.Forall₂ R items items') (path : String) :
    Q (Conformance.arrayFailures elements items path)
      (Conformance.arrayFailures elements' items' path) := by
  cases helements with
  | nil => exact hQ.refl []
  | cons he hes =>
      cases hes with
      | nil =>
          refine hQ.flatMap ((forall₂_zipIdx hitems 0).imp ?_)
          rintro ⟨v, i⟩ ⟨w, j⟩ ⟨hvw, rfl⟩
          exact he hvw _
      | cons he₂ hes => exact hQ.tupleFailures hR (.cons he (.cons he₂ hes)) hitems path

end PathRelation

/-! ## Types with the same values -/

namespace Schema

/-- Schemas with types that have the same values, however these types look. -/
def SameType (s t : Schema) : Prop := s.valueType.SameValues t.valueType

theorem sameType_array {elements elements' : List Schema}
    (h : List.Forall₂ SameType elements elements') :
    SameType (array elements) (array elements') := by
  intro value
  cases value with
  | array items =>
      cases h with
      | nil => rfl
      | cons he hes =>
          cases hes with
          | nil =>
              rw [valueType, valueType, ValueType.includes, ValueType.includes]
              exact List.all_congr rfl fun item => he item
          | cons he₂ hes =>
              have htypes := List.forall₂_map_left_iff.2
                (List.forall₂_map_right_iff.2 (List.Forall₂.cons he (.cons he₂ hes)))
              have heach := ValueType.all₂_includes_congr htypes items
              rw [all₂_map, all₂_map] at heach
              rw [includes_tuple_valueType, includes_tuple_valueType]
              exact heach
  | _ =>
      rw [includes_array_valueType_of_ne _ _ (by simp),
        includes_array_valueType_of_ne _ _ (by simp)]

/-- Fields may be replaced where the types stay the same, even if properties are no longer
optional. -/
theorem sameType_object {fields fields' : List (String × Schema)}
    (h : List.Forall₂ (fun f g => f.1 = g.1 ∧ SameType f.2 g.2) fields fields') :
    SameType (object fields) (object fields') := by
  intro value
  rw [includes_object_valueType, includes_object_valueType]
  congr 1
  induction h with
  | nil => rfl
  | cons hfg _ ih =>
      obtain ⟨hkey, htype⟩ := hfg
      rw [List.all_cons, List.all_cons, hkey, htype, ih]

/-- The order of fields makes no difference to the values of an object type. -/
theorem sameType_object_of_perm {fields fields' : List (String × Schema)}
    (h : fields.Perm fields') : SameType (object fields) (object fields') := by
  intro value
  rw [includes_object_valueType, includes_object_valueType, h.all_eq]

end Schema

end Conformance
