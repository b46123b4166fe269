import Conformance.Proofs.Schema.Declarations
import Conformance.Proofs.Schema.NormalTypes

/-!
# Conformance.Proofs.Schema.ObjectTypes

Object types and the declarations they are made from.

The type of an object schema holds the same properties, apart by whether they may be
missing.  Each group is what a filter leaves of the declarations, so it keeps their order,
and the filters are each other's negation, so together they leave everything.  As no key is
declared twice, it makes no difference which group is searched first.

* `names_propertyTypes_sublist`, `isOptional_propertyTypes_iff`, `get?_propertyTypes` — the
  order in a group, the group of a property, and its type.
* `Declarations.valueType_splits_keys` — the statement for all declarations.
-/

namespace Conformance

namespace Schema

/-! ## Groups -/

/-- Only predicates can make a property optional. -/
theorem isOptional_iff {s : Schema} :
    s.isOptional = true ↔ ∃ p, s = .predicate p ∧ p.isOptional = true := by
  cases s <;> simp [isOptional]

/-- The names in a group stand as they do among all keys. -/
theorem names_propertyTypes_sublist (fields : List (String × Schema)) :
    ((propertyTypes fields).required.map (·.1)).Sublist (fields.map (·.1)) ∧
      ((propertyTypes fields).optional.map (·.1)).Sublist (fields.map (·.1)) := by
  rw [propertyTypes_eq_filter]
  simp only [List.map_map]
  exact ⟨List.filter_sublist.map _, List.filter_sublist.map _⟩

/-- A property may be missing if it is declared with a schema that says so. -/
theorem isOptional_propertyTypes_iff {fields : List (String × Schema)} {key : String} :
    (propertyTypes fields).isOptional key = true ↔
      ∃ s, (key, s) ∈ fields ∧ s.isOptional = true := by
  rw [propertyTypes_eq_filter, PropertyTypes.isOptional, List.any_map, List.any_filter,
    List.any_eq_true]
  constructor
  · rintro ⟨⟨k, s⟩, hmem, hfield⟩
    obtain ⟨hoptional, hkey⟩ := Bool.and_eq_true_iff.1 hfield
    obtain rfl : k = key := eq_of_beq hkey
    exact ⟨s, hmem, hoptional⟩
  · rintro ⟨s, hmem, hoptional⟩
    exact ⟨(key, s), hmem, Bool.and_eq_true_iff.2 ⟨hoptional, beq_self_eq_true key⟩⟩

theorem nodup_names_propertyTypes {fields : List (String × Schema)}
    (hnodup : (fields.map (·.1)).Nodup) : ((propertyTypes fields).fields.map (·.1)).Nodup :=
  (names_propertyTypes_perm fields).nodup_iff.2 hnodup

/-- No name is in both groups. -/
theorem disjoint_names_propertyTypes {fields : List (String × Schema)}
    (hnodup : (fields.map (·.1)).Nodup) :
    ((propertyTypes fields).required.map (·.1)).Disjoint
      ((propertyTypes fields).optional.map (·.1)) := by
  have hnames := nodup_names_propertyTypes hnodup
  rw [PropertyTypes.fields, List.map_append] at hnames
  exact List.disjoint_of_nodup_append hnames

/-- Either group is searched, so every field is found with its type. -/
theorem get?_propertyTypes {fields : List (String × Schema)}
    (hnodup : (fields.map (·.1)).Nodup) (key : String) :
    (propertyTypes fields).get? key = (fields.lookup key).map valueType := by
  rw [PropertyTypes.get?, lookup_eq_of_perm (nodup_names_propertyTypes hnodup)
    (fields_propertyTypes_perm fields), lookup_map]

theorem length_propertyTypes (fields : List (String × Schema)) :
    (propertyTypes fields).length = fields.length := by
  have hlength := (fields_propertyTypes_perm fields).length_eq
  rwa [PropertyTypes.fields, List.length_append, List.length_map] at hlength

end Schema

/-! ## Main statement -/

namespace Declarations

open Schema

/-- **Split keys**: whatever has been declared, its type is an object type that holds every
key once, in one of two groups that keep the order of the declarations.  A property may be
missing if its schema is a predicate with the mark for that, and its type is that of its
schema. -/
theorem valueType_splits_keys (o : Declarations) :
    ∃ type : PropertyTypes ValueType, o.toSchema.valueType = .object type ∧
      (type.required.map (·.1)).Disjoint (type.optional.map (·.1)) ∧
      (type.fields.map (·.1)).Nodup ∧
      (type.fields.map (·.1)).Perm o.keys ∧
      (type.required.map (·.1)).Sublist o.keys ∧
      (type.optional.map (·.1)).Sublist o.keys ∧
      (∀ key, type.isOptional key = true ↔
        ∃ p, o.get? key = some (.predicate p) ∧ p.isOptional = true) ∧
      (∀ key, type.get? key = (o.get? key).map valueType) ∧
      (∀ key, type.get? key = none ↔ key ∉ o.keys) ∧
      type.length = o.length := by
  have hget (key : String) : (propertyTypes o.fields).get? key = (o.get? key).map valueType :=
    get?_propertyTypes o.nodup_keys key
  obtain ⟨hrequired, hoptional⟩ := names_propertyTypes_sublist o.fields
  refine ⟨propertyTypes o.fields, rfl, disjoint_names_propertyTypes o.nodup_keys,
    nodup_names_propertyTypes o.nodup_keys, names_propertyTypes_perm o.fields, hrequired,
    hoptional, fun key => ?_, hget, fun key => ?_, length_propertyTypes o.fields⟩
  · rw [isOptional_propertyTypes_iff]
    constructor
    · rintro ⟨s, hmem, hs⟩
      obtain ⟨p, rfl, hp⟩ := isOptional_iff.1 hs
      exact ⟨p, mem_fields_iff.1 hmem, hp⟩
    · rintro ⟨p, hfound, hp⟩
      exact ⟨.predicate p, mem_fields_iff.2 hfound, hp⟩
  · rw [hget, Option.map_eq_none_iff, get?_eq_none_iff]

end Declarations

end Conformance
