import Mathlib.Data.Set.Basic
import Conformance.Literal
import Conformance.Proofs.Lists

/-!
# Conformance.Proofs.Value.Agreement

Values that nobody can tell apart who only reads some of their properties.

* `Value.Bisimulation keys R` — related values look the same from outside, and what
  is found in them, item by item or under one of the keys, is related again.  An
  accessor gets `undefined` for a missing property, so a bisimulation cannot tell
  that from a property that holds `undefined`.
* `Value.AgreeOn keys` — the relation of values that have the same structure and
  differ at most in properties of other keys, at any depth.  It is a bisimulation
  (`bisimulation_agreeOn`).
-/

namespace Conformance

namespace Value

/-! ## Kinds -/

theorem kind_eq_array_iff {v : Value} : v.kind = .array ↔ ∃ items, v = .array items := by
  cases v <;> simp [kind]

theorem kind_eq_object_iff {v : Value} :
    v.kind = .object ↔ ∃ properties, v = .object properties := by
  cases v <;> simp [kind]

theorem isUndefined_iff {v : Value} : v.isUndefined = true ↔ v = .undefined := by
  cases v <;> simp [isUndefined]

/-- The kind decides whether a value carries properties. -/
theorem hasProperties_eq_of_kind_eq {v w : Value} (h : v.kind = w.kind) :
    v.hasProperties = w.hasProperties := by
  cases v <;> cases w <;> simp_all [kind, hasProperties]

/-- There is one value of the kind of `undefined`. -/
theorem isUndefined_eq_of_kind_eq {v w : Value} (h : v.kind = w.kind) :
    v.isUndefined = w.isUndefined := by
  cases v <;> cases w <;> simp_all [kind, isUndefined]

/-- Accessors find something in arrays and objects only. -/
theorem property_eq_undefined {v : Value} (harray : v.kind ≠ .array) (hobject : v.kind ≠ .object)
    (key : String) : v.property key = .undefined := by
  cases v with
  | array items => exact absurd rfl harray
  | object properties => exact absurd rfl hobject
  | _ => rfl

/-! ## Bisimulations -/

/-- Related values have the same kind, pass the same literals and belong to the same
classes; related arrays have related items in the same places, and properties of
related values with one of the keys are related. -/
structure Bisimulation (keys : Set String) (R : Value → Value → Prop) : Prop where
  kind_eq : ∀ {v w}, R v w → v.kind = w.kind
  accepts_eq : ∀ {v w}, R v w → ∀ l : Literal, l.accepts v = l.accepts w
  belongsTo_eq : ∀ {v w}, R v w → ∀ c, v.belongsTo c = w.belongsTo c
  items : ∀ {vs ws}, R (.array vs) (.array ws) → List.Forall₂ R vs ws
  property : ∀ {v w}, R v w → ∀ key ∈ keys, R (v.property key) (w.property key)

/-- The item under a key, where the items of both arrays are related. -/
theorem property_array_related {R : Value → Value → Prop} {vs ws : List Value}
    (h : List.Forall₂ R vs ws) (hlength : ∀ n, R (.number (.ofNat n)) (.number (.ofNat n)))
    (hundefined : R .undefined .undefined) (key : String) :
    R ((array vs).property key) ((array ws).property key) := by
  by_cases hkey : key = "length"
  · simp only [property, if_pos hkey, h.length_eq]
    exact hlength _
  · simp only [property, if_neg hkey]
    cases arrayIndex? key with
    | none => exact hundefined
    | some i =>
        have hitem := forall₂_getElem? h i
        simp only [Option.bind_some]
        generalize vs[i]? = item, ws[i]? = item' at hitem ⊢
        cases hitem with
        | none => exact hundefined
        | some hvw => exact hvw

/-! ## Agreement on some keys -/

/-- Two values of the same structure whose objects, at every depth, agree in what can be
read under the given keys.  Other properties may be there or not and may hold
anything; under a given key, a missing property agrees with `undefined`. -/
inductive AgreeOn (keys : Set String) : Value → Value → Prop where
  | undefined : AgreeOn keys .undefined .undefined
  | null : AgreeOn keys .null .null
  | bool (b : Bool) : AgreeOn keys (.bool b) (.bool b)
  | number (x : Binary64) : AgreeOn keys (.number x) (.number x)
  | string (s : String) : AgreeOn keys (.string s) (.string s)
  | host (i : HostObject) : AgreeOn keys (.host i) (.host i)
  | array {vs ws : List Value} (h : List.Forall₂ (AgreeOn keys) vs ws) :
      AgreeOn keys (.array vs) (.array ws)
  | object {ps qs : List (String × Value)}
      (h : ∀ key ∈ keys,
        AgreeOn keys ((ps.lookup key).getD .undefined) ((qs.lookup key).getD .undefined)) :
      AgreeOn keys (.object ps) (.object qs)

/-- Under the given keys, values that agree cannot be told apart. -/
theorem bisimulation_agreeOn (keys : Set String) : Bisimulation keys (AgreeOn keys) where
  kind_eq h := by cases h <;> rfl
  accepts_eq h l := by
    cases h with
    | array | object => cases l <;> rfl
    | _ => rfl
  belongsTo_eq h c := by cases h <;> rfl
  items h := by
    cases h with
    | array h => exact h
  property h key hkey := by
    cases h with
    | array h => exact property_array_related h (fun _ => .number _) .undefined key
    | object h => exact h key hkey
    | _ => exact .undefined

end Value

end Conformance
