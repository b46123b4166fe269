import Mathlib.Data.List.Basic
import Conformance.Proofs.Schema.Structure

/-!
# Conformance.Proofs.Schema.Failures

The paths at which a value fails a schema, as a plain recursion on the schema:
no cap, no findings handed through, nothing that stops early.

* `Schema.failures` — the paths, in order.  The rules of the array schemas are
  `arrayFailures`; the items of a tuple are compared with the elements at their
  positions, and its length counts only if no position fails.
* `failures_append` — paths are relative: the name of the value itself is a
  common front of all of them.
-/

namespace Conformance

/-! ## Paths -/

/-- The path of an item from the path of its array. -/
def itemPath (path : String) (index : Nat) : String := path ++ "[" ++ toString index ++ "]"

/-- The path of a property from the path of the value that has it. -/
def propertyPath (path key : String) : String := path ++ "." ++ key

theorem path_item_eq (p : Place) (index : Nat) :
    (p.item index).path = itemPath p.path index := Place.path_item p index

theorem path_property_eq (p : Place) (key : String) :
    (p.property key).path = propertyPath p.path key := Place.path_property p key

/-- What is in front of the path of an array is in front of the paths of its items. -/
theorem itemPath_append (front path : String) (index : Nat) :
    itemPath (front ++ path) index = front ++ itemPath path index := by
  simp only [itemPath, String.append_assoc]

/-- What is in front of the path of an object is in front of those of its properties. -/
theorem propertyPath_append (front path key : String) :
    propertyPath (front ++ path) key = front ++ propertyPath path key := by
  simp only [propertyPath, String.append_assoc]

/-! ## The recursion -/

/-- The paths at which a value fails, the value itself being at the given path. -/
abbrev Failures := Value → String → List String

/-- The path itself, unless the value passes. -/
def failureUnless (passes : Bool) (path : String) : List String := if passes then [] else [path]

/-- The failures of one item of a tuple: those of the element at its position, and
behind the last element the item itself unless it is `undefined`. -/
def positionFailures (elements : List Failures) (path : String) (item : Value × Nat) :
    List String :=
  match elements[item.2]? with
  | some element => element item.1 (itemPath path item.2)
  | none => failureUnless item.1.isUndefined (itemPath path item.2)

/-- The failures of a tuple: those of its items, or else that of its length. -/
def tupleFailures (elements : List Failures) (items : List Value) (path : String) :
    List String :=
  let inner := items.zipIdx.flatMap (positionFailures elements path)
  if inner.isEmpty then failureUnless (items.length == elements.length) path else inner

/-- The failures of an array: without elements there are none, one element stands for
every item, and more make a tuple. -/
def arrayFailures (elements : List Failures) (items : List Value) (path : String) :
    List String :=
  match elements with
  | [] => []
  | [element] => items.zipIdx.flatMap fun item => element item.1 (itemPath path item.2)
  | elements => tupleFailures elements items path

namespace Schema

mutual

/-- The paths at which a value fails the schema. -/
def failures : Schema → Failures
  | string, value, path => failureUnless (value.kind == .string) path
  | number, value, path => failureUnless (value.kind == .number) path
  | boolean, value, path => failureUnless (value.kind == .boolean) path
  | array elements, value, path => match value with
    | .array items => arrayFailures (elementFailures elements) items path
    | _ => [path]
  | object fields, value, path =>
    if value.hasProperties then
      (fieldFailures fields).flatMap fun f => f.2 (value.property f.1) (propertyPath path f.1)
    else [path]
  | ofClass c, value, path => failureUnless (value.belongsTo c) path
  | predicate p, value, path => failureUnless (p.test value) path
  | literal l, value, path => failureUnless (l.accepts value) path
termination_by structural s => s

def elementFailures : List Schema → List Failures
  | [] => []
  | e :: es => e.failures :: elementFailures es
termination_by structural es => es

def fieldFailures : List (String × Schema) → List (String × Failures)
  | [] => []
  | (key, s) :: fields => (key, s.failures) :: fieldFailures fields
termination_by structural fields => fields

end

theorem elementFailures_eq_map (elements : List Schema) :
    elementFailures elements = elements.map failures := by
  induction elements with
  | nil => rfl
  | cons e es ih => rw [elementFailures, ih, List.map_cons]

theorem fieldFailures_eq_map (fields : List (String × Schema)) :
    fieldFailures fields = fields.map fun f => (f.1, f.2.failures) := by
  induction fields with
  | nil => rfl
  | cons f fields ih => rw [fieldFailures, ih, List.map_cons]

/-- An array schema hands its items on to the rules of arrays. -/
theorem failures_array (elements : List Schema) (items : List Value) (path : String) :
    (array elements).failures (.array items) path =
      arrayFailures (elements.map failures) items path := by
  rw [failures, elementFailures_eq_map]

/-- The position behind the elements in `earlier` belongs to the next one. -/
theorem positionFailures_next (earlier : List Schema) (e : Schema) (elements : List Schema)
    (path : String) (item : Value) :
    positionFailures ((earlier ++ e :: elements).map failures) path (item, earlier.length) =
      e.failures item (itemPath path earlier.length) := by
  have hnext : ((earlier ++ e :: elements).map failures)[earlier.length]? =
      some e.failures := by
    rw [List.getElem?_map, List.getElem?_append_right (Nat.le_refl _), Nat.sub_self]
    rfl
  simp only [positionFailures, hnext]

/-- The failures of an object are those of its fields, in the order of the schema. -/
theorem failures_object (fields : List (String × Schema)) (value : Value) (path : String)
    (h : value.hasProperties = true) :
    (object fields).failures value path =
      fields.flatMap fun f => f.2.failures (value.property f.1) (propertyPath path f.1) := by
  rw [failures, if_pos h, fieldFailures_eq_map, List.flatMap_map]

/-- A value that carries no properties is one failure as a whole. -/
theorem failures_object_of_no_properties (fields : List (String × Schema)) (value : Value)
    (path : String) (h : value.hasProperties = false) :
    (object fields).failures value path = [path] := by
  rw [failures, if_neg (by rw [h]; decide)]

end Schema

/-! ## Relative paths -/

/-- Failures whose paths start with a given front as soon as the path of the value does. -/
def Failures.Relative (front : String) (failures : Failures) : Prop :=
  ∀ (value : Value) (path : String),
    failures value (front ++ path) = (failures value path).map (front ++ ·)

/-- Whether a check passes has nothing to do with the path. -/
theorem failureUnless_append (passes : Bool) (front path : String) :
    failureUnless passes (front ++ path) = (failureUnless passes path).map (front ++ ·) := by
  cases passes <;> rfl

/-- A front is passed on from the elements of a tuple to its items. -/
theorem positionFailures_append {front : String} {elements : List Failures}
    (h : ∀ element ∈ elements, element.Relative front) (path : String) (item : Value × Nat) :
    positionFailures elements (front ++ path) item =
      (positionFailures elements path item).map (front ++ ·) := by
  unfold positionFailures
  rw [itemPath_append]
  cases helement : elements[item.2]? with
  | none => exact failureUnless_append _ _ _
  | some element => exact h element (List.mem_of_getElem? helement) _ _

/-- Whether a tuple looks at its length does not depend on the front. -/
theorem tupleFailures_append {front : String} {elements : List Failures}
    (h : ∀ element ∈ elements, element.Relative front) (items : List Value) (path : String) :
    tupleFailures elements items (front ++ path) =
      (tupleFailures elements items path).map (front ++ ·) := by
  have hinner : items.zipIdx.flatMap (positionFailures elements (front ++ path)) =
      (items.zipIdx.flatMap (positionFailures elements path)).map (front ++ ·) := by
    rw [List.map_flatMap]
    exact List.flatMap_congr fun item _ => positionFailures_append h path item
  simp only [tupleFailures]
  rw [hinner, List.isEmpty_map, failureUnless_append]
  split <;> rfl

/-- The rules of arrays keep paths relative. -/
theorem arrayFailures_append {front : String} {elements : List Failures}
    (h : ∀ element ∈ elements, element.Relative front) (items : List Value) (path : String) :
    arrayFailures elements items (front ++ path) =
      (arrayFailures elements items path).map (front ++ ·) := by
  match elements, h with
  | [], _ => rfl
  | [element], h =>
      have helement := h element List.mem_cons_self
      simp only [arrayFailures, List.map_flatMap, itemPath_append, helement _ _]
  | e₁ :: e₂ :: es, h => exact tupleFailures_append h items path

namespace Schema

/-- **Relative paths**: a front of the path of the value is a front of all paths. -/
theorem failures_append (s : Schema) (front : String) (value : Value) (path : String) :
    s.failures value (front ++ path) = (s.failures value path).map (front ++ ·) := by
  induction s using Schema.induction generalizing value path with
  | string | number | boolean | ofClass c | predicate p | literal l =>
      rw [failures, failures, failureUnless_append]
  | array elements ih =>
      cases value with
      | array items =>
          rw [failures_array, failures_array]
          exact arrayFailures_append (List.forall_mem_map.2 ih) items path
      | _ => rfl
  | object fields ih =>
      cases hvalue : value.hasProperties with
      | true =>
          rw [failures_object _ _ _ hvalue, failures_object _ _ _ hvalue, List.map_flatMap]
          refine List.flatMap_congr fun f hf => ?_
          rw [propertyPath_append, ih f hf]
      | false =>
          rw [failures_object_of_no_properties _ _ _ hvalue,
            failures_object_of_no_properties _ _ _ hvalue]
          rfl

/-- Whether a value fails does not depend on what it is called. -/
theorem failures_eq_nil_iff (s : Schema) (value : Value) (path : String) :
    s.failures value path = [] ↔ s.failures value "" = [] := by
  have happend := failures_append s path value ""
  rw [String.append_empty] at happend
  rw [happend, List.map_eq_nil_iff]

end Schema

end Conformance
