import Conformance.Proofs.Matcher.Paths
import Conformance.Proofs.ValueType.Membership

/-!
# Conformance.Proofs.Schema.Acceptance

What it means to conform, schema by schema, without the exploration.

* `accepts_eq` — a value conforms when it has no failures.  This is so for every
  matcher, whatever it calls the value and however few mismatches it wants.
* `accepts_of_leaf` — the check of a leaf decides.
* `accepts_arrayOf`, `accepts_tuple`, `accepts_object` — the parts decide.  A tuple
  conforms position by position and in its length; an item behind the last element
  never helps, even if it is `undefined`.
* `test_anyOf`, `test_dictionary`, `test_conforming` — the same for derived
  predicates.
-/

namespace Conformance

/-! ## Conforming without failures -/

/-- A check that passes is no failure. -/
theorem isEmpty_failureUnless (passes : Bool) (path : String) :
    (failureUnless passes path).isEmpty = passes := by
  cases passes <;> rfl

/-- There are no failures if no part has one. -/
theorem isEmpty_flatMap {α β : Type} (l : List α) (f : α → List β) :
    (l.flatMap f).isEmpty = l.all fun a => (f a).isEmpty := by
  rw [Bool.eq_iff_iff, List.isEmpty_iff, List.flatMap_eq_nil_iff, List.all_eq_true]
  simp only [List.isEmpty_iff]

/-- A tuple has no failures if its positions have none and its length is right. -/
theorem isEmpty_tupleFailures (elements : List Failures) (items : List Value) (path : String) :
    (tupleFailures elements items path).isEmpty =
      ((items.zipIdx.all fun item => (positionFailures elements path item).isEmpty) &&
        items.length == elements.length) := by
  rw [← isEmpty_flatMap]
  simp only [tupleFailures]
  cases hinner : (items.zipIdx.flatMap (positionFailures elements path)).isEmpty with
  | true => exact isEmpty_failureUnless _ path
  | false => exact hinner

/-- To conform is to have no failures, whatever the value is called in them. -/
theorem Matcher.accepts_eq (m : Matcher) (value : Value) (schema : Schema) (path : String) :
    m.accepts value schema = (schema.failures value path).isEmpty := by
  have hnil := (schema.failures_eq_nil_iff value m.root).trans
    (schema.failures_eq_nil_iff value path).symm
  rw [accepts_eq_isNone, firstPath?_eq_head?, Bool.eq_iff_iff, Option.isNone_iff_eq_none,
    List.head?_eq_none_iff, List.isEmpty_iff]
  exact hnil

namespace Schema

theorem accepts_eq (s : Schema) (value : Value) (path : String) :
    s.accepts value = (s.failures value path).isEmpty :=
  Matcher.accepts_eq {} value s path

/-- What a matcher is told makes no difference to what conforms. -/
theorem accepts_matcher (m : Matcher) (s : Schema) (value : Value) :
    m.accepts value s = s.accepts value := by
  rw [m.accepts_eq value s "", s.accepts_eq value ""]

/-! ## Conforming by parts -/

/-- A leaf passes or fails as a whole. -/
theorem accepts_of_leaf {s : Schema} {value : Value} {passes : Bool}
    (h : s.failures value "" = failureUnless passes "") : s.accepts value = passes := by
  rw [s.accepts_eq value "", h, isEmpty_failureUnless]

/-- The marker asks for the kind only. -/
@[simp] theorem accepts_string (value : Value) :
    string.accepts value = (value.kind == .string) := accepts_of_leaf rfl

@[simp] theorem accepts_number (value : Value) :
    number.accepts value = (value.kind == .number) := accepts_of_leaf rfl

@[simp] theorem accepts_boolean (value : Value) :
    boolean.accepts value = (value.kind == .boolean) := accepts_of_leaf rfl

/-- Declared classes count, and nothing but host objects has a class. -/
@[simp] theorem accepts_ofClass (c : Class) (value : Value) :
    (ofClass c).accepts value = value.belongsTo c := accepts_of_leaf rfl

/-- A predicate decides by its test. What it claims plays no part. -/
@[simp] theorem accepts_predicate (p : Predicate) (value : Value) :
    (predicate p).accepts value = p.test value := accepts_of_leaf rfl

/-- A literal asks for one value, compared as literals are. -/
@[simp] theorem accepts_literal (l : Literal) (value : Value) :
    (literal l).accepts value = l.accepts value := accepts_of_leaf rfl

theorem accepts_array_of_ne (elements : List Schema) (value : Value)
    (h : ∀ items, value ≠ .array items) : (array elements).accepts value = false := by
  rw [accepts_eq _ _ ""]
  cases value with
  | array items => exact absurd rfl (h items)
  | _ => rfl

/-- Without elements, any array conforms. -/
@[simp] theorem accepts_anyArray (items : List Value) :
    anyArray.accepts (.array items) = true := by
  rw [accepts_eq _ _ "", anyArray, failures_array]
  rfl

/-- One element is for all items, however many there are. -/
@[simp] theorem accepts_arrayOf (e : Schema) (items : List Value) :
    (arrayOf e).accepts (.array items) = items.all e.accepts := by
  have hitems := List.zipIdx_map_fst 0 items
  rw [accepts_eq _ _ "", arrayOf, failures_array]
  simp only [List.map_cons, List.map_nil, arrayFailures]
  rw [isEmpty_flatMap, ← hitems, List.all_map, hitems]
  exact List.all_congr rfl fun item => (e.accepts_eq item.1 _).symm

/-- Items from a position on conform to the elements from there on, and are as many,
when each is free of failures at its position. -/
theorem all_positionFailures (earlier elements : List Schema) (items : List Value)
    (path : String) :
    (((items.zipIdx earlier.length).all fun item =>
        (positionFailures ((earlier ++ elements).map failures) path item).isEmpty) &&
      items.length == elements.length) = List.all₂ accepts elements items := by
  induction elements generalizing earlier items with
  | nil =>
      cases items with
      | nil => rfl
      | cons item items => exact Bool.and_false _
  | cons e elements ih =>
      cases items with
      | nil => rfl
      | cons item items =>
          -- The first element joins the earlier ones, which moves the position on by one.
          have hrest := ih (earlier ++ [e]) items
          rw [List.length_append, List.length_singleton, List.append_assoc,
            List.singleton_append] at hrest
          have hlength : ((item :: items).length == (e :: elements).length) =
              (items.length == elements.length) := by
            simp
          rw [List.zipIdx_cons, List.all_cons, positionFailures_next, ← accepts_eq, hlength,
            Bool.and_assoc, hrest, all₂_cons]

/-- More elements are for one item each, and no item is left over. -/
@[simp] theorem accepts_tuple (e₁ e₂ : Schema) (es : List Schema) (items : List Value) :
    (array (e₁ :: e₂ :: es)).accepts (.array items) =
      List.all₂ accepts (e₁ :: e₂ :: es) items := by
  have hpositions := all_positionFailures [] (e₁ :: e₂ :: es) items ""
  rw [accepts_eq _ _ "", failures_array, ← hpositions]
  change (tupleFailures ((e₁ :: e₂ :: es).map failures) items "").isEmpty = _
  rw [isEmpty_tupleFailures, List.length_map]
  rfl

/-- An object schema looks at its own keys only. What is missing is looked at as
`undefined`. -/
@[simp] theorem accepts_object (fields : List (String × Schema)) (value : Value) :
    (object fields).accepts value =
      (value.hasProperties && fields.all fun f => f.2.accepts (value.property f.1)) := by
  rw [accepts_eq _ _ ""]
  cases hvalue : value.hasProperties with
  | true =>
      rw [failures_object _ _ _ hvalue, isEmpty_flatMap, Bool.true_and]
      exact List.all_congr rfl fun f => (f.2.accepts_eq _ _).symm
  | false =>
      rw [failures_object_of_no_properties _ _ _ hvalue]
      rfl

end Schema

/-! ## Derived predicates -/

namespace Logged

variable {α : Type}

/-- Stopping at the first success makes no difference to the answer. -/
@[simp] theorem result_anyM (f : α → Logged Bool) (l : List α) :
    (l.anyM f).result = l.any fun a => (f a).result := by
  induction l with
  | nil => rfl
  | cons a l ih =>
      rw [List.anyM_cons, result_bind, List.any_cons, ← ih]
      cases (f a).result <;> rfl

/-- Stopping at the first failure makes no difference to the answer. -/
@[simp] theorem result_allM (f : α → Logged Bool) (l : List α) :
    (l.allM f).result = l.all fun a => (f a).result := by
  induction l with
  | nil => rfl
  | cons a l ih =>
      rw [List.allM_cons, result_bind, List.all_cons, ← ih]
      cases (f a).result <;> rfl

end Logged

namespace Predicate

@[simp] theorem test_anyOf (schemas : List Schema) (value : Value) :
    (anyOf schemas).test value = schemas.any (·.accepts value) :=
  Logged.result_anyM _ schemas

/-- Besides what conforms, `undefined` passes. -/
@[simp] theorem test_orUndefined (s : Schema) (value : Value) :
    (orUndefined s).test value = (s.accepts value || value.isUndefined) := by
  have hmembers : (orUndefined s).test value = (anyOf [s, .undefined]).test value := rfl
  have hundefined : Schema.undefined.accepts value = value.isUndefined := by
    rw [Schema.undefined, Schema.accepts_literal]
    cases value <;> rfl
  rw [hmembers, test_anyOf, List.any_cons, List.any_cons, List.any_nil, Bool.or_false, hundefined]

/-- All keys, as strings, and all contents have to conform. -/
@[simp] theorem test_dictionary (key content : Schema) (properties : List (String × Value)) :
    (dictionary key content).test (.object properties) =
      properties.all fun p => key.accepts (.string p.1) && content.accepts p.2 := by
  rw [test, dictionary, Logged.result_allM]
  refine List.all_congr rfl fun p => ?_
  rw [Logged.result_bind]
  change (if key.accepts (.string p.1) then _ else _ : Logged Bool).result = _
  cases key.accepts (.string p.1) <;> rfl

/-- Nothing but objects passes for a dictionary, arrays included. -/
theorem test_dictionary_of_ne (key content : Schema) (value : Value)
    (h : ∀ properties, value ≠ .object properties) :
    (dictionary key content).test value = false := by
  cases value with
  | object properties => exact absurd rfl (h properties)
  | _ => rfl

@[simp] theorem test_conforming (s : Schema) (value : Value) :
    (conforming s).test value = s.accepts value := rfl

end Predicate

end Conformance
