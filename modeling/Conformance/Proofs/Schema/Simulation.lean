import Conformance.Proofs.Schema.Observation

/-!
# Conformance.Proofs.Schema.Simulation

Related values against one schema, where the schema may look at all that is stored in an
object.

An accessor cannot tell a property that holds `undefined` from a missing one, but a
dictionary can, since it goes through the stored properties.  So besides a bisimulation
on all keys it takes a condition on what related objects store (`Value.StoreAlike`).

* `Predicate.Follows Q R` — the answers to values that `R` relates are related by `Q`.
* `Schema.related_accepts_of_bisimulation` — then so is conforming to a schema.
* `Predicate.inherited_follows` — derived predicates follow `R` as well.  With equal
  answers they respect `R`, so all failures are the same.
-/

namespace Conformance

open Value (Bisimulation)

/-- The answers to related values are related. -/
def Predicate.Follows (Q : Bool → Bool → Prop) (R : Value → Value → Prop)
    (p : Predicate) : Prop :=
  ∀ ⦃v w : Value⦄, R v w → Q (p.test v) (p.test w)

/-- What holds of all properties that related objects store is related, if it is related
for properties with one key and related contents. -/
def Value.StoreAlike (Q : Bool → Bool → Prop) (R : Value → Value → Prop) : Prop :=
  ∀ ⦃ps qs : List (String × Value)⦄, R (.object ps) (.object qs) →
    ∀ f g : String × Value → Bool,
      (∀ p q : String × Value, p.1 = q.1 → R p.2 q.2 → Q (f p) (g q)) →
        Q (ps.all f) (qs.all g)

/-! ## Lists of answers -/

namespace Compositional

variable {Q : Bool → Bool → Prop} {α β : Type}

/-- Related answers item by item give related answers for the lists. -/
theorem all_of_forall₂ (hQ : Compositional Q) {f : α → Bool} {g : β → Bool} {as : List α}
    {bs : List β} (h : List.Forall₂ (fun a b => Q (f a) (g b)) as bs) :
    Q (as.all f) (bs.all g) := by
  induction h with
  | nil => exact hQ.refl true
  | cons hab _ ih =>
      rw [List.all_cons, List.all_cons]
      exact hQ.and hab ih

/-- The items on one side may be replaced by related ones. -/
theorem all₂_of_forall₂ (hQ : Compositional Q) {R : β → β → Prop} {f : α → β → Bool}
    {as : List α} (hf : ∀ a ∈ as, ∀ b b', R b b' → Q (f a b) (f a b')) {bs bs' : List β}
    (h : List.Forall₂ R bs bs') : Q (List.all₂ f as bs) (List.all₂ f as bs') := by
  induction as generalizing bs bs' with
  | nil => cases h <;> exact hQ.refl _
  | cons a as ih =>
      obtain ⟨ha, has⟩ := List.forall_mem_cons.1 hf
      cases h with
      | nil => exact hQ.refl false
      | cons hbb h =>
          rw [all₂_cons, all₂_cons]
          exact hQ.and (ha _ _ hbb) (ih has h)

end Compositional

/-! ## Conforming in a related way -/

variable {Q : Bool → Bool → Prop} {R : Value → Value → Prop}

namespace Schema

theorem everyKey_univ (s : Schema) : s.EveryKey (· ∈ Set.univ) := by
  induction s using Schema.induction with
  | string => exact .string
  | number => exact .number
  | boolean => exact .boolean
  | array elements ih => exact .array elements ih
  | object fields ih => exact .object fields (fun _ _ => Set.mem_univ _) ih
  | ofClass c => exact .ofClass c
  | predicate p => exact .predicate p
  | literal l => exact .literal l

/-- Arrays with related items conform in a related way to elements that do so. -/
theorem related_accepts_items (hQ : Compositional Q) {elements : List Schema}
    (h : ∀ e ∈ elements, ∀ v w : Value, R v w → Q (e.accepts v) (e.accepts w))
    {vs ws : List Value} (hitems : List.Forall₂ R vs ws) :
    Q ((array elements).accepts (.array vs)) ((array elements).accepts (.array ws)) := by
  match elements, h with
  | [], _ =>
      have hany (items : List Value) : (array []).accepts (.array items) = true :=
        accepts_anyArray items
      rw [hany, hany]
      exact hQ.refl true
  | [e], h =>
      have hall (items : List Value) : (array [e]).accepts (.array items) = items.all e.accepts :=
        accepts_arrayOf e items
      rw [hall, hall]
      exact hQ.all_of_forall₂ (hitems.imp fun v w => h e List.mem_cons_self v w)
  | e₁ :: e₂ :: es, h =>
      rw [accepts_tuple, accepts_tuple]
      exact hQ.all₂_of_forall₂ h hitems

/-- **Simulation**: related values conform in the way in which they pass the predicates
of the schema. -/
theorem related_accepts_of_bisimulation (hQ : Compositional Q) (hR : Bisimulation Set.univ R)
    {s : Schema} (hs : s.EveryPredicate (Predicate.Follows Q R)) {v w : Value} (hvw : R v w) :
    Q (s.accepts v) (s.accepts w) := by
  have hkind := hR.kind_eq hvw
  induction hs generalizing v w with
  | string =>
      rw [accepts_string, accepts_string, hkind]
      exact hQ.refl _
  | number =>
      rw [accepts_number, accepts_number, hkind]
      exact hQ.refl _
  | boolean =>
      rw [accepts_boolean, accepts_boolean, hkind]
      exact hQ.refl _
  | ofClass c =>
      rw [accepts_ofClass, accepts_ofClass, hR.belongsTo_eq hvw]
      exact hQ.refl _
  | literal l =>
      rw [accepts_literal, accepts_literal, hR.accepts_eq hvw]
      exact hQ.refl _
  | predicate p hp =>
      rw [accepts_predicate, accepts_predicate]
      exact hp hvw
  | array elements _ ih =>
      by_cases harray : v.kind = .array
      · obtain ⟨vs, rfl⟩ := Value.kind_eq_array_iff.1 harray
        obtain ⟨ws, rfl⟩ := Value.kind_eq_array_iff.1 (hkind ▸ harray)
        refine related_accepts_items hQ (fun e he v w hvw => ?_) (hR.items hvw)
        exact ih e he hvw (hR.kind_eq hvw)
      · have hnone (u : Value) (hu : u.kind ≠ .array) : (array elements).accepts u = false :=
          accepts_array_of_ne elements u fun items heq => hu (heq ▸ rfl)
        rw [hnone v harray, hnone w (hkind ▸ harray)]
        exact hQ.refl false
  | object fields _ ih =>
      rw [accepts_object, accepts_object, Value.hasProperties_eq_of_kind_eq hkind]
      refine hQ.and (hQ.refl _) (hQ.all fun f hf => ?_)
      have hproperty := hR.property hvw f.1 (Set.mem_univ _)
      exact ih f hf hproperty (hR.kind_eq hproperty)

end Schema

/-! ## Derived predicates -/

namespace Predicate

open Schema (related_accepts_of_bisimulation)

/-- A dictionary follows its contents, as far as the stored properties are alike. -/
theorem follows_dictionary (hQ : Compositional Q) (hR : Bisimulation Set.univ R)
    (hstore : Value.StoreAlike Q R) (key : Schema) {content : Schema}
    (hcontent : content.EveryPredicate (Follows Q R)) : Follows Q R (dictionary key content) := by
  intro v w hvw
  by_cases hobject : v.kind = .object
  · obtain ⟨ps, rfl⟩ := Value.kind_eq_object_iff.1 hobject
    obtain ⟨qs, rfl⟩ := Value.kind_eq_object_iff.1 (hR.kind_eq hvw ▸ hobject)
    rw [test_dictionary, test_dictionary]
    refine hstore hvw _ _ fun p q hkeys hpq => ?_
    rw [hkeys]
    exact hQ.and (hQ.refl _) (related_accepts_of_bisimulation hQ hR hcontent hpq)
  · have hnone (u : Value) (hu : u.kind ≠ .object) : (dictionary key content).test u = false :=
      test_dictionary_of_ne key content u fun properties heq => hu (heq ▸ rfl)
    rw [hnone v hobject, hnone w (hR.kind_eq hvw ▸ hobject)]
    exact hQ.refl false

/-- **Derived predicates** follow a bisimulation if the predicates in the schemas they
are made from do so. -/
theorem inherited_follows (hQ : Compositional Q) (hR : Bisimulation Set.univ R)
    (hstore : Value.StoreAlike Q R) : Inherited (Follows Q R) where
  anyOf schemas h v w hvw := by
    rw [test_anyOf, test_anyOf]
    exact hQ.any fun s hs => related_accepts_of_bisimulation hQ hR (h s hs) hvw
  orUndefined s h v w hvw := by
    rw [test_orUndefined, test_orUndefined,
      Value.isUndefined_eq_of_kind_eq (hR.kind_eq hvw)]
    exact hQ.or (related_accepts_of_bisimulation hQ hR h hvw) (hQ.refl _)
  dictionary key _ _ hcontent := follows_dictionary hQ hR hstore key hcontent
  conforming s h _ _ hvw := related_accepts_of_bisimulation hQ hR h hvw
  anything _ _ _ := hQ.refl true

end Predicate

end Conformance
