import Conformance.Proofs.Value.Equality
import Conformance.Proofs.Value.Normalization

/-!
# Conformance.Proofs.Value.Portable

Values that survive the way through JSON.

A portable value has no host objects and no numbers but finite ones, and `undefined` at
most as a property.  Its normal form lacks the properties that are `undefined` and has
a positive zero for each negative one.  Accessors see none of that:

* `Value.lookup_normalizeProperties` — what is stored under a key in a normal form.
* `Value.Carried` — what accessors find in a portable value, and what they find in its
  normal form.  This is a bisimulation on all keys (`bisimulation_carried`).
-/

namespace Conformance

namespace Value

/-- No host objects, no numbers that are not finite, and no `undefined` other than as
the content of a property. -/
inductive Portable : Value → Prop where
  | null : Portable null
  | bool (b : Bool) : Portable (bool b)
  | number (x : Binary64) (h : x.isFinite = true) : Portable (number x)
  | string (s : String) : Portable (string s)
  | array (items : List Value) (h : ∀ v ∈ items, Portable v) : Portable (array items)
  | object (properties : List (String × Value))
      (h : ∀ p ∈ properties, p.2.isUndefined = false → Portable p.2) :
      Portable (object properties)

/-- A portable value holds no host objects. -/
theorem Portable.hosts_eq_nil {v : Value} (h : v.Portable) : v.hosts = [] := by
  induction h with
  | null | bool | number | string => rfl
  | array items _ ih =>
      rw [hosts_array]
      exact List.flatMap_eq_nil_iff.2 ih
  | object properties _ ih =>
      rw [hosts_object]
      refine List.flatMap_eq_nil_iff.2 fun p hp => ?_
      cases hundefined : p.2.isUndefined with
      | false => exact ih p hp hundefined
      | true =>
          rw [isUndefined_iff.1 hundefined]
          rfl

/-! ## Properties of a normal form -/

/-- **Stored properties**: what is left under a key is what was there, unless that was
`undefined`. -/
theorem lookup_normalizeProperties {ps : List (String × Value)} (h : (ps.map (·.1)).Nodup)
    (key : String) : (normalizeProperties ps).lookup key =
      ((ps.lookup key).filter fun v => !v.isUndefined).map normalize := by
  induction ps with
  | nil => rfl
  | cons p ps ih =>
      obtain ⟨name, v⟩ := p
      obtain ⟨hfresh, hnodup⟩ := List.nodup_cons.1 h
      rw [normalizeProperties, List.lookup_cons]
      cases hname : key == name with
      | false =>
          cases hv : v.isUndefined with
          | true => exact ih hnodup
          | false =>
              rw [if_neg Bool.false_ne_true, List.lookup_cons, hname]
              exact ih hnodup
      | true =>
          cases hv : v.isUndefined with
          | true =>
              -- No other property has the key of the one that is left out.
              have hnone : ps.lookup key = none := by
                refine Option.eq_none_iff_forall_ne_some.2 fun a ha => hfresh ?_
                rw [← eq_of_beq hname]
                exact List.mem_map.2 ⟨_, mem_of_lookup ha, rfl⟩
              rw [if_pos rfl, ih hnodup, hnone, Option.filter_some_neg (by simp [hv])]
              rfl
          | false =>
              rw [if_neg Bool.false_ne_true, List.lookup_cons, hname,
                Option.filter_some_pos (by simp [hv])]
              rfl

/-! ## Accessors on both sides -/

/-- What accessors find in a portable value, and what in its normal form: contents and
their normal forms, `undefined`, and the lengths of arrays. -/
inductive Carried : Value → Value → Prop where
  | undefined : Carried undefined undefined
  | number (x : Binary64) : Carried (number x) (number x)
  | normalize {v : Value} (hwf : v.WellFormed) (hv : v.Portable) : Carried v v.normalize

/-- A literal that a portable value passes is passed by its normal form. -/
theorem Portable.accepts_normalize {v : Value} (h : v.Portable) (l : Literal) :
    l.accepts v = l.accepts v.normalize := by
  cases h with
  | null | bool | string => rfl
  | array | object => cases l <;> rfl
  | number x hx =>
      have hequal := Binary64.unsignedZero_beq (Binary64.ne_nan_of_isFinite hx)
      rw [normalize_number hx, Literal.accepts_number_eq hequal]

theorem Portable.kind_normalize {v : Value} (h : v.Portable) : v.kind = v.normalize.kind := by
  cases h with
  | number x hx =>
      rw [normalize_number hx]
      rfl
  | _ => rfl

/-- Arrays and objects are only carried to their normal forms. -/
theorem Carried.eq_normalize {v w : Value} (h : Carried v w) (hv : v.hasProperties = true) :
    w = v.normalize ∧ v.WellFormed ∧ v.Portable := by
  cases h with
  | undefined | number => contradiction
  | normalize hwf hportable => exact ⟨rfl, hwf, hportable⟩

theorem Carried.items {vs ws : List Value} (h : Carried (.array vs) (.array ws)) :
    List.Forall₂ Carried vs ws := by
  obtain ⟨hnormal, hwf, hportable⟩ := h.eq_normalize rfl
  obtain rfl : ws = normalizeItems vs := array.inj hnormal
  cases hportable with
  | array _ hitems =>
      rw [normalizeItems_eq_map]
      refine List.forall₂_map_right_iff.2 (List.forall₂_same.2 fun v hv => ?_)
      exact .normalize (itemsWellFormed_iff.1 hwf v hv) (hitems v hv)

/-- A property that is left out reads as the `undefined` that it was. -/
theorem carried_property_object {ps : List (String × Value)} (hwf : (object ps).WellFormed)
    (hps : ∀ p ∈ ps, p.2.isUndefined = false → p.2.Portable) (key : String) :
    Carried ((object ps).property key) ((object ps).normalize.property key) := by
  obtain ⟨hsorted, hwf⟩ := hwf
  rw [normalize, property, property, lookup_normalizeProperties hsorted.nodup_keys]
  cases hlookup : ps.lookup key with
  | none => exact .undefined
  | some v =>
      have hmem := mem_of_lookup hlookup
      cases hv : v.isUndefined with
      | true =>
          rw [Option.filter_some_neg (by simp [hv]), isUndefined_iff.1 hv]
          exact .undefined
      | false =>
          rw [Option.filter_some_pos (by simp [hv])]
          exact .normalize (propertiesWellFormed_iff.1 hwf _ hmem) (hps _ hmem hv)

/-- Accessors find no difference between a portable value and its normal form. -/
theorem bisimulation_carried : Bisimulation Set.univ Carried where
  kind_eq h := by
    cases h with
    | undefined | number => rfl
    | normalize _ hv => exact hv.kind_normalize
  accepts_eq h l := by
    cases h with
    | undefined | number => rfl
    | normalize _ hv => exact hv.accepts_normalize l
  belongsTo_eq h c := by
    cases h with
    | undefined | number => rfl
    | normalize _ hv =>
        cases hv with
        | number x hx => rw [normalize_number hx]; rfl
        | _ => rfl
  items h := h.items
  property h key _ := by
    cases h with
    | undefined | number => exact .undefined
    | normalize hwf hv =>
      cases hv with
      | null | bool | string => exact .undefined
      | number x hx =>
          rw [normalize_number hx]
          exact .undefined
      | array items hitems =>
          have hboth := Carried.items (.normalize hwf (.array items hitems))
          exact property_array_related hboth (fun _ => .number _) .undefined key
      | object ps hps => exact carried_property_object hwf hps key

end Value

end Conformance
