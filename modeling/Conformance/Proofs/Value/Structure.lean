import Conformance.Proofs.Lists
import Conformance.Value.Json

/-!
# Conformance.Proofs.Value.Structure

Reasoning along the structure of values and of JSON trees.

* `Value.induction`, `Json.induction` — structural induction, with a hypothesis about
  all items of an array or all properties of an object at once.
* `Value.Hereditary` — what a value passes on to all that can be read from it, as it does
  being well formed.
* `Value.leaves` — whatever there is in a value that is no array and no object, depth
  first and from left to right.  `Value.hosts` and `Value.numbers` are the host objects
  and the numbers among the leaves.
* `Value.itemsOfJson_eq_map` and its like — the functions on lists of items and of
  properties are those of the list library.
-/

namespace Conformance

/-! ## Induction -/

/-- Structural induction: an array may assume the statement of all its items, and an
object of all its properties. -/
@[elab_as_elim]
theorem Value.induction {motive : Value → Prop}
    (undefined : motive .undefined) (null : motive .null) (bool : ∀ b, motive (.bool b))
    (number : ∀ x, motive (.number x)) (string : ∀ s, motive (.string s))
    (array : ∀ items, (∀ v ∈ items, motive v) → motive (.array items))
    (object : ∀ properties, (∀ p ∈ properties, motive p.2) → motive (.object properties))
    (host : ∀ i, motive (.host i)) (v : Value) : motive v := by
  refine @Value.rec motive (fun vs => ∀ v ∈ vs, motive v) (fun ps => ∀ p ∈ ps, motive p.2)
    (fun p => motive p.2) undefined null bool number string array object host ?_ ?_ ?_ ?_ ?_ v
  · intro v hv
    exact (List.not_mem_nil hv).elim
  · intro v vs hv hvs
    exact List.forall_mem_cons.2 ⟨hv, hvs⟩
  · intro p hp
    exact (List.not_mem_nil hp).elim
  · intro p ps hp hps
    exact List.forall_mem_cons.2 ⟨hp, hps⟩
  · intro key v hv
    exact hv

/-- Structural induction: an array may assume the statement of all its items, and an
object of all its properties. -/
@[elab_as_elim]
theorem Json.induction {motive : Json → Prop}
    (null : motive .null) (bool : ∀ b, motive (.bool b)) (number : ∀ n, motive (.number n))
    (string : ∀ s, motive (.string s))
    (array : ∀ items, (∀ j ∈ items, motive j) → motive (.array items))
    (object : ∀ properties, (∀ p ∈ properties, motive p.2) → motive (.object properties))
    (j : Json) : motive j := by
  refine @Json.rec motive (fun js => ∀ j ∈ js, motive j) (fun ps => ∀ p ∈ ps, motive p.2)
    (fun p => motive p.2) null bool number string array object ?_ ?_ ?_ ?_ ?_ j
  · intro j hj
    exact (List.not_mem_nil hj).elim
  · intro j js hj hjs
    exact List.forall_mem_cons.2 ⟨hj, hjs⟩
  · intro p hp
    exact (List.not_mem_nil hp).elim
  · intro p ps hp hps
    exact List.forall_mem_cons.2 ⟨hp, hps⟩
  · intro key j hj
    exact hj

namespace Value

/-! ## Hereditary properties -/

/-- What holds of a value passes on to its items and contents, and holds of what
properties read as besides these: `undefined`, the lengths of arrays, and keys. -/
structure Hereditary (V : Value → Prop) : Prop where
  undefined : V .undefined
  length : ∀ n : Nat, V (.number (.ofNat n))
  key : ∀ s, V (.string s)
  items : ∀ {items}, V (.array items) → ∀ v ∈ items, V v
  contents : ∀ {properties}, V (.object properties) → ∀ p ∈ properties, V p.2

namespace Hereditary

/-- What holds of all values is passed on to all of them. -/
theorem everywhere : Hereditary fun _ => True where
  undefined := trivial
  length _ := trivial
  key _ := trivial
  items _ _ _ := trivial
  contents _ _ _ := trivial

/-- What is in a well-formed value is well formed. -/
theorem wellFormed : Hereditary WellFormed where
  undefined := trivial
  length _ := trivial
  key _ := trivial
  items h := itemsWellFormed_iff.1 h
  contents h := propertiesWellFormed_iff.1 h.2

/-- Whatever is read from a value has what is hereditary. -/
theorem property {V : Value → Prop} (hV : Hereditary V) {value : Value} (h : V value)
    (key : String) : V (value.property key) := by
  cases value with
  | array items =>
      by_cases hkey : key = "length"
      · rw [Value.property, if_pos hkey]
        exact hV.length _
      · rw [Value.property, if_neg hkey]
        cases hitem : (arrayIndex? key).bind (items[·]?) with
        | none => exact hV.undefined
        | some v =>
            obtain ⟨i, -, hi⟩ := Option.bind_eq_some_iff.1 hitem
            exact hV.items h v (List.mem_of_getElem? hi)
  | object properties =>
      rw [Value.property]
      cases hfound : properties.lookup key with
      | none => exact hV.undefined
      | some v => exact hV.contents h (key, v) (mem_of_lookup hfound)
  | _ => exact hV.undefined

end Hereditary

/-! ## Leaves -/

mutual

/-- What is in a value besides arrays and objects, depth first: the items of an array in
their order, the properties of an object in key order. -/
def leaves : Value → List Value
  | undefined => [undefined]
  | null => [null]
  | bool b => [bool b]
  | number x => [number x]
  | string s => [string s]
  | array items => leavesOfItems items
  | object properties => leavesOfProperties properties
  | host i => [host i]
termination_by structural v => v

def leavesOfItems : List Value → List Value
  | [] => []
  | v :: vs => v.leaves ++ leavesOfItems vs
termination_by structural vs => vs

def leavesOfProperties : List (String × Value) → List Value
  | [] => []
  | (_, v) :: ps => v.leaves ++ leavesOfProperties ps
termination_by structural ps => ps

end

theorem leavesOfItems_eq_flatMap (vs : List Value) : leavesOfItems vs = vs.flatMap leaves := by
  induction vs with
  | nil => rfl
  | cons v vs ih => rw [leavesOfItems, ih, List.flatMap_cons]

theorem leavesOfProperties_eq_flatMap (ps : List (String × Value)) :
    leavesOfProperties ps = ps.flatMap (·.2.leaves) := by
  induction ps with
  | nil => rfl
  | cons p ps ih => rw [leavesOfProperties, ih, List.flatMap_cons]

/-- What is drawn from the leaves of an array is drawn from its items in turn. -/
theorem filterMap_leaves_array {α : Type} (pick : Value → Option α) (items : List Value) :
    (array items).leaves.filterMap pick = items.flatMap fun v => v.leaves.filterMap pick := by
  rw [leaves, leavesOfItems_eq_flatMap, List.filterMap_flatMap]

/-- What is drawn from the leaves of an object is drawn from its contents in turn. -/
theorem filterMap_leaves_object {α : Type} (pick : Value → Option α)
    (properties : List (String × Value)) :
    (object properties).leaves.filterMap pick =
      properties.flatMap fun p => p.2.leaves.filterMap pick := by
  rw [leaves, leavesOfProperties_eq_flatMap, List.filterMap_flatMap]

/-- The host object that the value is, if it is one. -/
def host? : Value → Option HostObject
  | host i => some i
  | _ => none

/-- The number that the value is, if it is one. -/
def number? : Value → Option Binary64
  | number x => some x
  | _ => none

/-- The host objects in a value, at any depth. -/
def hosts (v : Value) : List HostObject := v.leaves.filterMap host?

/-- The numbers in a value, at any depth. -/
def numbers (v : Value) : List Binary64 := v.leaves.filterMap number?

/-- The host objects of an array are those of its items. -/
theorem hosts_array (items : List Value) : (array items).hosts = items.flatMap hosts :=
  filterMap_leaves_array host? items

/-- The host objects of an object are those of its contents, in key order. -/
theorem hosts_object (properties : List (String × Value)) :
    (object properties).hosts = properties.flatMap (·.2.hosts) :=
  filterMap_leaves_object host? properties

theorem numbers_array (items : List Value) : (array items).numbers = items.flatMap numbers :=
  filterMap_leaves_array number? items

theorem numbers_object (properties : List (String × Value)) :
    (object properties).numbers = properties.flatMap (·.2.numbers) :=
  filterMap_leaves_object number? properties

/-! ## Values of JSON trees -/

theorem itemsOfJson_eq_map (js : List Json) : itemsOfJson js = js.map ofJson := by
  induction js with
  | nil => rfl
  | cons j js ih => rw [itemsOfJson, ih, List.map_cons]

theorem propertiesOfJson_eq_map (ps : List (String × Json)) :
    propertiesOfJson ps = ps.map fun p => (p.1, ofJson p.2) := by
  induction ps with
  | nil => rfl
  | cons p ps ih => rw [propertiesOfJson, ih, List.map_cons]

/-- A JSON tree holds no host objects. -/
theorem hosts_ofJson (j : Json) : (ofJson j).hosts = [] := by
  induction j using Json.induction with
  | null | bool | number | string => rfl
  | array items ih =>
      rw [ofJson, hosts_array, itemsOfJson_eq_map, List.flatMap_map]
      exact List.flatMap_eq_nil_iff.2 ih
  | object properties ih =>
      rw [ofJson, hosts_object, propertiesOfJson_eq_map, List.flatMap_map]
      exact List.flatMap_eq_nil_iff.2 ih

/-! ## Equality of lists -/

/-- Lists made item by item are equal if their items are. -/
theorem beqItems_map {α : Type} (f g : α → Value) {l : List α}
    (h : ∀ a ∈ l, (f a == g a) = true) : beqItems (l.map f) (l.map g) = true := by
  induction l with
  | nil => rfl
  | cons a l ih =>
      obtain ⟨ha, hl⟩ := List.forall_mem_cons.1 h
      simp only [List.map_cons, beqItems, Bool.and_eq_true]
      exact ⟨ha, ih hl⟩

/-- Objects made content by content are equal if their contents are. -/
theorem beqProperties_map {α : Type} (f g : α → Value) {l : List (String × α)}
    (h : ∀ p ∈ l, (f p.2 == g p.2) = true) :
    beqProperties (l.map fun p => (p.1, f p.2)) (l.map fun p => (p.1, g p.2)) = true := by
  induction l with
  | nil => rfl
  | cons p l ih =>
      obtain ⟨hp, hl⟩ := List.forall_mem_cons.1 h
      simp only [List.map_cons, beqProperties, Bool.and_eq_true, beq_self_eq_true, true_and]
      exact ⟨hp, ih hl⟩

end Value

end Conformance
