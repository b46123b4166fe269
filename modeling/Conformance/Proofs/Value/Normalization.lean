import Conformance.Matcher.Require
import Conformance.Proofs.Binary64.Integers
import Conformance.Proofs.Lists
import Conformance.Proofs.Value.Structure

/-!
# Conformance.Proofs.Value.Normalization

What becomes of a value on its way through JSON and back.

Reading back what `Value.toJson` wrote gives the value in its normal form: no
`undefined`, no numbers that are not finite and no negative zero (`Value.normalize`).
The only values that cannot be written are those with a host object in them, and the
first of these in the order of writing is the one that is reported.

Both outcomes are one equation, `map_ofJson_toJson`.  Its induction goes through lists of
items and properties, where outcomes are put together by `HostObject.unlessAny`: the
normal form, unless there is a host object on the way.
-/

namespace Conformance

/-! ## Numbers -/

/-- No number of a JSON tree overflows when it is read. -/
theorem JsonNumber.isFinite_toBinary64 (n : JsonNumber) : n.toBinary64.isFinite = true := by
  cases n with
  | float x hfinite => exact hfinite
  | integer n inRange =>
      -- Integers of the tree have 64 bits, far fewer than would overflow.
      apply Binary64.isFinite_ofInt
      by_cases hn : n.natAbs = 0
      · rw [hn]
        decide
      · have hsmall : n.natAbs < 2 ^ 65 := by omega
        exact Nat.lt_of_lt_of_le ((Nat.log2_lt hn).2 hsmall) (by decide)

namespace Value

/-! ## The normal form -/

mutual

/-- The value without what JSON has no form for. -/
def normalize : Value → Value
  | undefined => null
  | null => null
  | bool b => bool b
  | number x => if x.isFinite then number x.unsignedZero else null
  | string s => string s
  | array items => array (normalizeItems items)
  | object properties => object (normalizeProperties properties)
  | host i => host i
termination_by structural v => v

def normalizeItems : List Value → List Value
  | [] => []
  | v :: vs => v.normalize :: normalizeItems vs
termination_by structural vs => vs

/-- Leaves out the properties that are `undefined`. -/
def normalizeProperties : List (String × Value) → List (String × Value)
  | [] => []
  | (k, v) :: ps =>
    if v.isUndefined then normalizeProperties ps
    else (k, v.normalize) :: normalizeProperties ps
termination_by structural ps => ps

end

theorem normalizeItems_eq_map (vs : List Value) : normalizeItems vs = vs.map normalize := by
  induction vs with
  | nil => rfl
  | cons v vs ih => rw [normalizeItems, ih, List.map_cons]

/-- Properties that are `undefined` go, and the others are normalized in their places. -/
theorem normalizeProperties_eq_map_filter (ps : List (String × Value)) :
    normalizeProperties ps =
      (ps.filter (!·.2.isUndefined)).map fun p => (p.1, p.2.normalize) := by
  induction ps with
  | nil => rfl
  | cons p ps ih =>
      rw [normalizeProperties, ih]
      cases hp : p.2.isUndefined <;> simp [hp]

/-- No property is left out where none can be `undefined`. -/
theorem normalizeProperties_map {α : Type} (f : α → Value)
    (h : ∀ a, (f a).isUndefined = false) (ps : List (String × α)) :
    normalizeProperties (ps.map fun p => (p.1, f p.2)) =
      ps.map fun p => (p.1, (f p.2).normalize) := by
  induction ps with
  | nil => rfl
  | cons p ps ih =>
      rw [List.map_cons, normalizeProperties, if_neg (Bool.eq_false_iff.1 (h p.2)), ih,
        List.map_cons]

/-- A normal form has null for `undefined`. -/
theorem isUndefined_normalize (v : Value) : v.normalize.isUndefined = false := by
  cases v with
  | number x =>
      rw [normalize]
      split <;> rfl
  | _ => rfl

/-- A finite number only loses the sign of a zero. -/
theorem normalize_number {x : Binary64} (h : x.isFinite = true) :
    (number x).normalize = number x.unsignedZero := by
  rw [normalize, if_pos h]

theorem normalize_number_of_not_isFinite {x : Binary64} (h : x.isFinite = false) :
    (number x).normalize = null := by
  rw [normalize, if_neg (Bool.eq_false_iff.1 h)]

/-- **Idempotence**: a normal form is its own normal form. -/
theorem normalize_normalize (v : Value) : v.normalize.normalize = v.normalize := by
  induction v using Value.induction with
  | undefined | null | bool | string | host => rfl
  | number x =>
      cases hx : x.isFinite with
      | true =>
          have hzero : x.unsignedZero.isFinite = true := by rw [Binary64.isFinite_unsignedZero, hx]
          rw [normalize_number hx, normalize_number hzero, Binary64.unsignedZero_unsignedZero]
      | false => rw [normalize_number_of_not_isFinite hx, normalize]
  | array items ih =>
      simp only [normalize, normalizeItems_eq_map, List.map_map]
      exact congrArg array (List.map_congr_left ih)
  | object properties ih =>
      rw [normalize, normalize, normalizeProperties_eq_map_filter properties,
        normalizeProperties_map normalize isUndefined_normalize]
      refine congrArg object (List.map_congr_left fun p hp => ?_)
      exact congrArg (Prod.mk p.1) (ih p (List.mem_filter.1 hp).1)

/-- What is drawn from the properties of a normal form, if nothing is drawn from null. -/
theorem flatMap_normalizeProperties {α : Type} (draw : Value → List α) (h : draw null = [])
    (ps : List (String × Value)) :
    (normalizeProperties ps).flatMap (draw ·.2) = ps.flatMap (draw ·.2.normalize) := by
  induction ps with
  | nil => rfl
  | cons p ps ih =>
      obtain ⟨key, v⟩ := p
      rw [normalizeProperties, List.flatMap_cons, ← ih]
      cases v with
      | undefined => simp [normalize, isUndefined, h]
      | _ => rfl

/-- **Numbers**: the numbers of a normal form are the finite numbers of the value, in the
same order and each equal to the one it stands for. -/
theorem numbers_normalize (v : Value) :
    List.Forall₂ (fun x y => (x == y) = true) v.normalize.numbers
      (v.numbers.filter Binary64.isFinite) := by
  induction v using Value.induction with
  | undefined | null | bool | string | host => exact .nil
  | number x =>
      have hnumbers : (number x).numbers = [x] := rfl
      cases hx : x.isFinite with
      | true =>
          rw [normalize_number hx, hnumbers, List.filter_cons_of_pos hx]
          exact .cons (Binary64.unsignedZero_beq (Binary64.ne_nan_of_isFinite hx)) .nil
      | false =>
          rw [normalize_number_of_not_isFinite hx, hnumbers,
            List.filter_cons_of_neg (Bool.eq_false_iff.1 hx)]
          exact .nil
  | array items ih =>
      rw [normalize, normalizeItems_eq_map, numbers_array, numbers_array, List.flatMap_map,
        List.filter_flatMap]
      exact forall₂_flatMap ih
  | object properties ih =>
      rw [normalize, numbers_object, numbers_object, flatMap_normalizeProperties numbers rfl,
        List.filter_flatMap]
      exact forall₂_flatMap ih

end Value

/-! ## Writing and reading back -/

namespace HostObject

/-- The result, unless there is a host object: then the class of the first one. -/
def unlessAny {α : Type} (hosts : List HostObject) (a : α) : Except Class α :=
  match hosts with
  | [] => .ok a
  | i :: _ => .error i.concrete

@[simp] theorem unlessAny_nil {α : Type} (a : α) : unlessAny [] a = .ok a := rfl

@[simp] theorem unlessAny_cons {α : Type} (i : HostObject) (hosts : List HostObject) (a : α) :
    unlessAny (i :: hosts) a = .error i.concrete := rfl

@[simp] theorem map_unlessAny {α β : Type} (f : α → β) (hosts : List HostObject) (a : α) :
    (unlessAny hosts a).map f = unlessAny hosts (f a) := by
  cases hosts <;> rfl

/-- Two results together: the host objects of the first come first. -/
theorem unlessAny_append {α β γ : Type} (f : α → β → γ) (hosts others : List HostObject)
    (a : α) (b : β) :
    (do
      let x ← unlessAny hosts a
      let y ← unlessAny others b
      return f x y) = unlessAny (hosts ++ others) (f a b) := by
  cases hosts with
  | nil => cases others <;> rfl
  | cons i hosts => rfl

end HostObject

open HostObject (unlessAny)

namespace Value

/-- A number comes back in its normal form, whichever way it is written. -/
theorem ofJson_toJson_number (x : Binary64) : ofJson x.toJson = (number x).normalize := by
  unfold Binary64.toJson
  split
  case h_1 n hn =>
    have hinteger : x.toInt? = some n := (Option.filter_eq_some_iff.1 hn).1
    rw [normalize_number (Binary64.isFinite_of_toInt? hinteger), ofJson, JsonNumber.toBinary64,
      Binary64.ofInt_of_toInt? hinteger]
  case h_2 hn =>
    -- A zero of either sign would have been written as an integer.
    have hnonzero : ¬(x == 0) = true := fun hzero => by
      simp [Binary64.toSafeInteger?, Binary64.toInt?_of_beq_zero hzero] at hn
    have hkept : x.unsignedZero = x := if_neg hnonzero
    cases hx : x.isFinite with
    | true =>
        rw [normalize_number hx, Json.ofBinary64, dif_pos hx, hkept]
        rfl
    | false =>
        rw [normalize_number_of_not_isFinite hx, Json.ofBinary64,
          dif_neg (Bool.eq_false_iff.1 hx)]
        rfl

/-- Writing an item and the items behind it, and reading both back. -/
theorem map_itemsOfJson_cons (v : Value) (vs : List Value) :
    (itemsToJson (v :: vs)).map itemsOfJson = (do
      let w ← v.toJson.map ofJson
      let ws ← (itemsToJson vs).map itemsOfJson
      return w :: ws) := by
  rw [itemsToJson]
  cases v.toJson with
  | error c => rfl
  | ok j => cases itemsToJson vs <;> rfl

/-- Items come back one by one, if each of them does. -/
theorem map_itemsOfJson_itemsToJson {vs : List Value}
    (h : ∀ v ∈ vs, v.toJson.map ofJson = unlessAny v.hosts v.normalize) :
    (itemsToJson vs).map itemsOfJson = unlessAny (vs.flatMap hosts) (normalizeItems vs) := by
  induction vs with
  | nil => rfl
  | cons v vs ih =>
      obtain ⟨hv, hvs⟩ := List.forall_mem_cons.1 h
      rw [map_itemsOfJson_cons, hv, ih hvs, HostObject.unlessAny_append, ← List.flatMap_cons]
      rfl

/-- Writing a property and those behind it, and reading them back. -/
theorem map_propertiesOfJson_cons {v : Value} (hv : v.isUndefined = false) (key : String)
    (ps : List (String × Value)) :
    (propertiesToJson ((key, v) :: ps)).map propertiesOfJson = (do
      let w ← v.toJson.map ofJson
      let qs ← (propertiesToJson ps).map propertiesOfJson
      return (key, w) :: qs) := by
  rw [propertiesToJson, if_neg (Bool.eq_false_iff.1 hv)]
  cases v.toJson with
  | error c => rfl
  | ok j => cases propertiesToJson ps <;> rfl

/-- Properties come back one by one, if each of them does. -/
theorem map_propertiesOfJson_propertiesToJson {ps : List (String × Value)}
    (h : ∀ p ∈ ps, p.2.toJson.map ofJson = unlessAny p.2.hosts p.2.normalize) :
    (propertiesToJson ps).map propertiesOfJson =
      unlessAny (ps.flatMap (·.2.hosts)) (normalizeProperties ps) := by
  induction ps with
  | nil => rfl
  | cons p ps ih =>
      obtain ⟨key, v⟩ := p
      obtain ⟨hv, hps⟩ := List.forall_mem_cons.1 h
      cases v with
      | undefined => exact ih hps
      | _ =>
          rw [map_propertiesOfJson_cons rfl, hv, ih hps, HostObject.unlessAny_append,
            List.flatMap_cons, normalizeProperties]
          rfl

/-- **Reading back**: what was written reads as the normal form, and what could not be
written has a host object in it. -/
theorem map_ofJson_toJson (v : Value) : v.toJson.map ofJson = unlessAny v.hosts v.normalize := by
  induction v using Value.induction with
  | undefined | null | bool | string | host => rfl
  | number x => exact congrArg Except.ok (ofJson_toJson_number x)
  | array items ih =>
      rw [normalize, hosts_array, ← HostObject.map_unlessAny array,
        ← map_itemsOfJson_itemsToJson ih, toJson]
      cases itemsToJson items <;> rfl
  | object properties ih =>
      rw [normalize, hosts_object, ← HostObject.map_unlessAny object,
        ← map_propertiesOfJson_propertiesToJson ih, toJson]
      cases propertiesToJson properties <;> rfl

/-- Without host objects a value can be written, and is read back in its normal form. -/
theorem toJson_eq_ok {v : Value} (h : v.hosts = []) :
    ∃ j, v.toJson = .ok j ∧ ofJson j = v.normalize := by
  have hread := map_ofJson_toJson v
  rw [h, HostObject.unlessAny_nil] at hread
  cases hj : v.toJson with
  | error c =>
      rw [hj] at hread
      contradiction
  | ok j =>
      rw [hj] at hread
      exact ⟨j, rfl, Except.ok.inj hread⟩

/-- The first host object is the one that is reported. -/
theorem toJson_eq_error {v : Value} {i : HostObject} {others : List HostObject}
    (h : v.hosts = i :: others) : v.toJson = .error i.concrete := by
  have hread := map_ofJson_toJson v
  rw [h, HostObject.unlessAny_cons] at hread
  cases hj : v.toJson with
  | error c =>
      rw [hj] at hread
      exact congrArg Except.error (Except.error.inj hread)
  | ok j =>
      rw [hj] at hread
      contradiction

/-! ## Values that were read -/

theorem isUndefined_ofJson (j : Json) : (ofJson j).isUndefined = false := by
  cases j <;> rfl

/-- A value that was read is in normal form already, up to the sign of zero. -/
theorem normalize_ofJson_beq (j : Json) : ((ofJson j).normalize == ofJson j) = true := by
  induction j using Json.induction with
  | null => rfl
  | bool b => exact beq_self_eq_true b
  | string s => exact beq_self_eq_true s
  | number n =>
      have hfinite := n.isFinite_toBinary64
      rw [ofJson, normalize_number hfinite]
      exact Binary64.unsignedZero_beq (Binary64.ne_nan_of_isFinite hfinite)
  | array items ih =>
      rw [ofJson, normalize, normalizeItems_eq_map, itemsOfJson_eq_map, List.map_map]
      exact beqItems_map (normalize ∘ ofJson) ofJson ih
  | object properties ih =>
      rw [ofJson, normalize, propertiesOfJson_eq_map,
        normalizeProperties_map ofJson isUndefined_ofJson]
      exact beqProperties_map (normalize ∘ ofJson) ofJson ih

/-- **Normalization.**  A value can be written as JSON exactly if there is no host object
in it; otherwise the error names the class of the first one.  What was written reads as the
normal form of the value, in which all finite numbers are as they were.  A second round
changes nothing any more, and a JSON tree that was read can be written again and reads as
an equal value. -/
theorem toJson_normalizes (v : Value) :
    ((∃ c, v.toJson = .error c) ↔ v.hosts ≠ []) ∧
    (∀ c, v.toJson = .error c ↔ v.hosts.head?.map HostObject.concrete = some c) ∧
    (∀ c, (JsonError.unserializable c).message = "cannot serialize instance of " ++ c.name) ∧
    ((∃ j, v.toJson = .ok j ∧ ofJson j = v.normalize) ↔ v.hosts = []) ∧
    List.Forall₂ (fun x y => (x == y) = true) v.normalize.numbers
      (v.numbers.filter Binary64.isFinite) ∧
    v.normalize.normalize = v.normalize ∧
    ∀ j : Json, ∃ k, (ofJson j).toJson = .ok k ∧ (ofJson k == ofJson j) = true := by
  have hagain (j : Json) : ∃ k, (ofJson j).toJson = .ok k ∧ (ofJson k == ofJson j) = true := by
    obtain ⟨k, hk, hread⟩ := toJson_eq_ok (hosts_ofJson j)
    exact ⟨k, hk, by rw [hread]; exact normalize_ofJson_beq j⟩
  refine ⟨?_, ?_, fun _ => rfl, ?_, numbers_normalize v, normalize_normalize v, hagain⟩
  all_goals
    cases hhosts : v.hosts with
    | nil =>
        obtain ⟨j, hj, hread⟩ := toJson_eq_ok hhosts
        simp [hj, hread]
    | cons i others => simp [toJson_eq_error hhosts]

/-- As a property `undefined` is left out, and in an array it is a null. -/
example :
    (object [("gone", undefined), ("list", array [undefined, bool true])]).toJson =
      .ok (.object [("list", .array [.null, .bool true])]) := rfl

end Value

end Conformance
