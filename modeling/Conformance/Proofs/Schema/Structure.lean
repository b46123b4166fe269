import Conformance.Schema.Declarations
import Conformance.Schema.Derived

/-!
# Conformance.Proofs.Schema.Structure

Reasoning along the structure of a schema.

* `Schema.induction` — structural induction.  A schema holds lists of schemas,
  so the hypothesis speaks of all elements or all fields at once.
* `Schema.EveryPredicate P` — every predicate among the leaves has `P`.  What a
  predicate looks at by itself is its own affair.
* `Schema.DistinctKeys` — no object among the leaves or above them declares a key
  twice, as is so for all that are built by `Declarations`.
* `Predicate.Inherited P` — predicates derived from schemas whose predicates
  have `P` have it again.
* `Schema.Composed P` — schemas built up from predicates with `P` in any way,
  the derived predicates included.  With `P` inherited, every predicate in such
  a schema has it (`Composed.everyPredicate`).
* `Schema.SelfContained` — schemas composed without any predicate of the caller.
-/

namespace Conformance

namespace Schema

/-! ## Induction -/

/-- Structural induction: an array schema may assume the statement of all its
elements, and an object schema of all its fields. -/
@[elab_as_elim]
theorem induction {motive : Schema → Prop}
    (string : motive .string) (number : motive .number) (boolean : motive .boolean)
    (array : ∀ elements, (∀ e ∈ elements, motive e) → motive (.array elements))
    (object : ∀ fields, (∀ f ∈ fields, motive f.2) → motive (.object fields))
    (ofClass : ∀ c, motive (.ofClass c))
    (predicate : ∀ p, motive (.predicate p))
    (literal : ∀ l, motive (.literal l)) (s : Schema) : motive s := by
  refine @Schema.rec motive (fun es => ∀ e ∈ es, motive e) (fun fs => ∀ f ∈ fs, motive f.2)
    (fun f => motive f.2) string number boolean array object ofClass predicate literal
    ?_ ?_ ?_ ?_ ?_ s
  · intro e he
    exact (List.not_mem_nil he).elim
  · intro e es he hes
    exact List.forall_mem_cons.2 ⟨he, hes⟩
  · intro f hf
    exact (List.not_mem_nil hf).elim
  · intro f fs hf hfs
    exact List.forall_mem_cons.2 ⟨hf, hfs⟩
  · intro key s hs
    exact hs

/-! ## Predicates in a schema -/

/-- Every predicate among the leaves of a schema, at any depth, has the property. -/
inductive EveryPredicate (P : Predicate → Prop) : Schema → Prop where
  | string : EveryPredicate P string
  | number : EveryPredicate P number
  | boolean : EveryPredicate P boolean
  | array (elements : List Schema) (h : ∀ e ∈ elements, EveryPredicate P e) :
      EveryPredicate P (array elements)
  | object (fields : List (String × Schema)) (h : ∀ f ∈ fields, EveryPredicate P f.2) :
      EveryPredicate P (object fields)
  | ofClass (c : Class) : EveryPredicate P (ofClass c)
  | predicate (p : Predicate) (h : P p) : EveryPredicate P (predicate p)
  | literal (l : Literal) : EveryPredicate P (literal l)

/-! ## Keys of objects -/

/-- No object schema, at any depth but outside of predicates, declares a key twice. -/
inductive DistinctKeys : Schema → Prop where
  | string : DistinctKeys string
  | number : DistinctKeys number
  | boolean : DistinctKeys boolean
  | array (elements : List Schema) (h : ∀ e ∈ elements, DistinctKeys e) :
      DistinctKeys (array elements)
  | object (fields : List (String × Schema)) (hnodup : (fields.map (·.1)).Nodup)
      (h : ∀ f ∈ fields, DistinctKeys f.2) : DistinctKeys (object fields)
  | ofClass (c : Class) : DistinctKeys (ofClass c)
  | predicate (p : Predicate) : DistinctKeys (predicate p)
  | literal (l : Literal) : DistinctKeys (literal l)

/-- Declarations never hold a key twice, so only the declared schemas matter. -/
theorem distinctKeys_toSchema (o : Declarations) (h : ∀ f ∈ o.fields, f.2.DistinctKeys) :
    o.toSchema.DistinctKeys :=
  .object o.fields o.nodup_keys h

end Schema

/-- The property passes from the predicates in schemas to the predicates derived
from these schemas. -/
structure Predicate.Inherited (P : Predicate → Prop) : Prop where
  anyOf : ∀ schemas : List Schema, (∀ s ∈ schemas, s.EveryPredicate P) → P (.anyOf schemas)
  orUndefined : ∀ s : Schema, s.EveryPredicate P → P (.orUndefined s)
  dictionary : ∀ key content : Schema, key.EveryPredicate P → content.EveryPredicate P →
    P (.dictionary key content)
  conforming : ∀ s : Schema, s.EveryPredicate P → P (.conforming s)
  anything : P .anything

namespace Schema

/-- A schema built up from markers, classes, literals and predicates that have the
property, by way of arrays, objects and derived predicates, nested to any depth. -/
inductive Composed (P : Predicate → Prop) : Schema → Prop where
  | string : Composed P string
  | number : Composed P number
  | boolean : Composed P boolean
  | array (elements : List Schema) (h : ∀ e ∈ elements, Composed P e) :
      Composed P (array elements)
  | object (fields : List (String × Schema)) (h : ∀ f ∈ fields, Composed P f.2) :
      Composed P (object fields)
  | ofClass (c : Class) : Composed P (ofClass c)
  | literal (l : Literal) : Composed P (literal l)
  | predicate (p : Predicate) (h : P p) : Composed P (predicate p)
  | anyOf (schemas : List Schema) (h : ∀ s ∈ schemas, Composed P s) :
      Composed P (predicate (.anyOf schemas))
  | orUndefined (s : Schema) (h : Composed P s) : Composed P (predicate (.orUndefined s))
  | dictionary (key content : Schema) (hkey : Composed P key) (hcontent : Composed P content) :
      Composed P (predicate (.dictionary key content))
  | conforming (s : Schema) (h : Composed P s) : Composed P (predicate (.conforming s))
  | anything : Composed P (predicate .anything)

/-- **Inheritance**: in a schema composed with predicates that have an inherited
property, every predicate has it. -/
theorem Composed.everyPredicate {P : Predicate → Prop} (hP : Predicate.Inherited P)
    {s : Schema} (hs : s.Composed P) : s.EveryPredicate P := by
  induction hs with
  | string => exact .string
  | number => exact .number
  | boolean => exact .boolean
  | array elements _ ih => exact .array elements ih
  | object fields _ ih => exact .object fields ih
  | ofClass c => exact .ofClass c
  | literal l => exact .literal l
  | predicate p h => exact .predicate p h
  | anyOf schemas _ ih => exact .predicate _ (hP.anyOf schemas ih)
  | orUndefined s _ ih => exact .predicate _ (hP.orUndefined s ih)
  | dictionary key content _ _ ihkey ihcontent =>
      exact .predicate _ (hP.dictionary key content ihkey ihcontent)
  | conforming s _ ih => exact .predicate _ (hP.conforming s ih)
  | anything => exact .predicate _ hP.anything

/-- A schema that is composed without predicates of the caller. -/
def SelfContained (s : Schema) : Prop := s.Composed fun _ => False

/-- A weaker property of predicates asks for less. -/
theorem Composed.mono {P Q : Predicate → Prop} (h : ∀ p, P p → Q p) {s : Schema}
    (hs : s.Composed P) : s.Composed Q := by
  induction hs with
  | string => exact .string
  | number => exact .number
  | boolean => exact .boolean
  | array elements _ ih => exact .array elements ih
  | object fields _ ih => exact .object fields ih
  | ofClass c => exact .ofClass c
  | literal l => exact .literal l
  | predicate p hp => exact .predicate p (h p hp)
  | anyOf schemas _ ih => exact .anyOf schemas ih
  | orUndefined s _ ih => exact .orUndefined s ih
  | dictionary key content _ _ ihkey ihcontent => exact .dictionary key content ihkey ihcontent
  | conforming s _ ih => exact .conforming s ih
  | anything => exact .anything

/-- Where all predicates are derived ones, they have everything that is inherited. -/
theorem SelfContained.everyPredicate {P : Predicate → Prop} (hP : Predicate.Inherited P)
    {s : Schema} (hs : s.SelfContained) : s.EveryPredicate P :=
  (hs.mono fun _ => False.elim).everyPredicate hP

end Schema

end Conformance
