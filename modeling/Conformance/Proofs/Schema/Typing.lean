import Mathlib.Data.List.Perm.Basic
import Conformance.Proofs.Schema.Acceptance
import Conformance.Proofs.Value.Structure

/-!
# Conformance.Proofs.Schema.Typing

The type of a schema against the values that conform to it.  Predicates decide how
far the two agree, since the type of a predicate is only claimed:

* `Predicate.Honest` — the claimed type has exactly the values that pass;
* `Predicate.Sound` — it has at least these.

Either may be asked of all values, or of the well-formed ones only (`HonestOn`,
`SoundOn`).  So two answers are compared, by a relation that is kept under `&&` and `||`
(`Compositional`), for values that hold none but values of their own kind
(`Value.Hereditary`).  That is all the recursions on either side need, and one
induction on the schema serves all four:

* `related_accepts_includes` — conforming and having the type are related as the
  predicates in the schema are;
* `inherited_related` — so are the answers of derived predicates and their types.
-/

namespace Conformance

/-! ## Relations between answers -/

/-- A relation between two answers that holds of equal ones and is kept under `&&`
and `||`. -/
structure Compositional (R : Bool → Bool → Prop) : Prop where
  refl : ∀ a, R a a
  and : ∀ {a a' b b'}, R a a' → R b b' → R (a && b) (a' && b')
  or : ∀ {a a' b b'}, R a a' → R b b' → R (a || b) (a' || b')

namespace Compositional

theorem equal : Compositional (· = ·) where
  refl _ := rfl
  and ha hb := by rw [ha, hb]
  or ha hb := by rw [ha, hb]

theorem implied : Compositional (fun a a' => a = true → a' = true) where
  refl _ h := h
  and ha hb h := by
    rw [Bool.and_eq_true] at h ⊢
    exact ⟨ha h.1, hb h.2⟩
  or ha hb h := by
    rw [Bool.or_eq_true] at h ⊢
    exact h.imp ha hb

variable {R : Bool → Bool → Prop} {α β : Type}

theorem all (hR : Compositional R) {l : List α} {f g : α → Bool}
    (h : ∀ a ∈ l, R (f a) (g a)) : R (l.all f) (l.all g) := by
  induction l with
  | nil => exact hR.refl true
  | cons a l ih =>
      rw [List.all_cons, List.all_cons]
      obtain ⟨ha, hl⟩ := List.forall_mem_cons.1 h
      exact hR.and ha (ih hl)

theorem any (hR : Compositional R) {l : List α} {f g : α → Bool}
    (h : ∀ a ∈ l, R (f a) (g a)) : R (l.any f) (l.any g) := by
  induction l with
  | nil => exact hR.refl false
  | cons a l ih =>
      rw [List.any_cons, List.any_cons]
      obtain ⟨ha, hl⟩ := List.forall_mem_cons.1 h
      exact hR.or ha (ih hl)

/-- A test position by position is kept, the lengths being the same on both sides. -/
theorem all₂ (hR : Compositional R) {l : List α} {bs : List β} {f g : α → β → Bool}
    (h : ∀ a ∈ l, ∀ b ∈ bs, R (f a b) (g a b)) :
    R (List.all₂ f l bs) (List.all₂ g l bs) := by
  induction l generalizing bs with
  | nil => cases bs <;> exact hR.refl _
  | cons a l ih =>
      obtain ⟨ha, hl⟩ := List.forall_mem_cons.1 h
      cases bs with
      | nil => exact hR.refl false
      | cons b bs =>
          rw [all₂_cons, all₂_cons]
          exact hR.and (ha b List.mem_cons_self)
            (ih fun a' ha' b' hb' => hl a' ha' b' (List.mem_cons_of_mem _ hb'))

end Compositional

/-! ## The types of the parts -/

namespace Schema

theorem valueTypes_eq_map (elements : List Schema) :
    valueTypes elements = elements.map valueType := by
  induction elements with
  | nil => rfl
  | cons e es ih => rw [valueTypes, ih, List.map_cons]

/-- A field goes to one of the groups, in the order of the schema. -/
theorem propertyTypes_eq_filter (fields : List (String × Schema)) :
    propertyTypes fields =
      { required := (fields.filter fun f => !f.2.isOptional).map fun f => (f.1, f.2.valueType)
        optional := (fields.filter fun f => f.2.isOptional).map fun f => (f.1, f.2.valueType) }
    := by
  induction fields with
  | nil => rfl
  | cons f fields ih =>
      rw [propertyTypes, ih]
      cases hf : f.2.isOptional with
      | true => simp [hf]
      | false => simp [hf]

/-- The groups of an object type hold the type of every field once. -/
theorem fields_propertyTypes_perm (fields : List (String × Schema)) :
    (propertyTypes fields).fields.Perm (fields.map fun f => (f.1, f.2.valueType)) := by
  rw [propertyTypes_eq_filter, PropertyTypes.fields, ← List.map_append]
  refine List.Perm.map _ (List.perm_append_comm.trans ?_)
  exact List.filter_append_perm (fun f => f.2.isOptional) fields

/-- An object type asks each property for the type of its field, required or not. -/
theorem includes_object_valueType (fields : List (String × Schema)) (value : Value) :
    (object fields).valueType.includes value =
      (value.hasProperties &&
        fields.all fun f => f.2.valueType.includes (value.property f.1)) := by
  rw [valueType, ValueType.includes_object, (fields_propertyTypes_perm fields).all_eq,
    List.all_map]
  rfl

/-- A tuple type asks each item for the type of its element. -/
theorem includes_tuple_valueType (e₁ e₂ : Schema) (es : List Schema) (items : List Value) :
    (array (e₁ :: e₂ :: es)).valueType.includes (.array items) =
      List.all₂ (fun e item => e.valueType.includes item) (e₁ :: e₂ :: es) items := by
  have htype : (array (e₁ :: e₂ :: es)).valueType =
      .tuple ((e₁ :: e₂ :: es).map valueType) := by
    rw [← valueTypes_eq_map]
    rfl
  rw [htype, ValueType.includes_tuple, all₂_map]

/-- The type of an array schema has no values but arrays. -/
theorem includes_array_valueType_of_ne (elements : List Schema) (value : Value)
    (h : ∀ items, value ≠ .array items) :
    (array elements).valueType.includes value = false := by
  cases value with
  | array items => exact absurd rfl (h items)
  | _ =>
      match elements with
      | [] | [_] | _ :: _ :: _ => rfl

end Schema

/-! ## Conforming values and their types -/

/-- Whether a value passes and whether it has the claimed type are related, for every value
with `V`. -/
def Predicate.Related (R : Bool → Bool → Prop) (V : Value → Prop) (p : Predicate) : Prop :=
  ∀ value : Value, V value → R (p.test value) (p.claimed.includes value)

/-- Without a condition on values, they are related at every value. -/
theorem Predicate.related_everywhere {R : Bool → Bool → Prop} {p : Predicate} :
    p.Related R (fun _ => True) ↔ ∀ value : Value, R (p.test value) (p.claimed.includes value) :=
  ⟨fun h value => h value trivial, fun h value _ => h value⟩

namespace Schema

open Predicate

variable {R : Bool → Bool → Prop} {V : Value → Prop}

/-- Both sides go through the items by the same rule, which the number of elements
decides. -/
theorem related_array (hR : Compositional R) {elements : List Schema}
    (h : ∀ e ∈ elements, ∀ value : Value, V value →
      R (e.accepts value) (e.valueType.includes value))
    {items : List Value} (hitems : ∀ item ∈ items, V item) :
    R ((array elements).accepts (.array items))
      ((array elements).valueType.includes (.array items)) := by
  match elements, h with
  | [], _ =>
      have hincludes : (array []).valueType.includes (.array items) = true := by
        rw [valueType, ValueType.includes, List.all_eq_true]
        exact fun item _ => rfl
      rw [hincludes]
      exact accepts_anyArray items ▸ hR.refl true
  | [e], h =>
      have he := h e List.mem_cons_self
      have haccepts := accepts_arrayOf e items
      rw [arrayOf] at haccepts
      rw [haccepts, valueType, ValueType.includes]
      exact hR.all fun item hitem => he item (hitems item hitem)
  | e₁ :: e₂ :: es, h =>
      rw [accepts_tuple, includes_tuple_valueType]
      exact hR.all₂ fun e he item hitem => h e he item (hitems item hitem)

/-- **Types follow predicates**: conforming to a schema and having its type are related
in the way in which this is so for every predicate in the schema. -/
theorem related_accepts_includes (hR : Compositional R) (hV : Value.Hereditary V) {s : Schema}
    (hs : s.EveryPredicate (Related R V)) (value : Value) (hvalue : V value) :
    R (s.accepts value) (s.valueType.includes value) := by
  induction hs generalizing value with
  | string =>
      rw [accepts_string]
      cases value <;> exact hR.refl _
  | number =>
      rw [accepts_number]
      cases value <;> exact hR.refl _
  | boolean =>
      rw [accepts_boolean]
      cases value <;> exact hR.refl _
  | ofClass c =>
      rw [accepts_ofClass]
      cases value <;> exact hR.refl _
  | literal l =>
      rw [accepts_literal]
      exact hR.refl _
  | predicate p hp =>
      rw [accepts_predicate]
      exact hp value hvalue
  | array elements _ ih =>
      cases value with
      | array items => exact related_array hR ih (hV.items hvalue)
      | _ =>
          rw [accepts_array_of_ne _ _ (by simp), includes_array_valueType_of_ne _ _ (by simp)]
          exact hR.refl false
  | object fields _ ih =>
      rw [accepts_object, includes_object_valueType]
      exact hR.and (hR.refl _) (hR.all fun f hf => ih f hf _ (hV.property hvalue f.1))

end Schema

namespace Predicate

variable {R : Bool → Bool → Prop} {V : Value → Prop}

/-- A union tries its members, and its type is the union of theirs. -/
theorem related_anyOf (hR : Compositional R) (hV : Value.Hereditary V) {schemas : List Schema}
    (h : ∀ s ∈ schemas, s.EveryPredicate (Related R V)) : Related R V (anyOf schemas) := by
  intro value hvalue
  have hclaimed : (anyOf schemas).claimed = .anyOf (schemas.map Schema.valueType) := rfl
  rw [test_anyOf, hclaimed, ValueType.includes_anyOf, List.any_map]
  exact hR.any fun s hs => Schema.related_accepts_includes hR hV (h s hs) value hvalue

/-- A dictionary tests the keys and the contents, and so does its type. -/
theorem related_dictionary (hR : Compositional R) (hV : Value.Hereditary V)
    {key content : Schema} (hkey : key.EveryPredicate (Related R V))
    (hcontent : content.EveryPredicate (Related R V)) :
    Related R V (dictionary key content) := by
  intro value hvalue
  have hclaimed : (dictionary key content).claimed =
      .dictionary key.valueType content.valueType := rfl
  rw [hclaimed]
  cases value with
  | object properties =>
      rw [test_dictionary, ValueType.includes]
      refine hR.all fun p hp => hR.and ?_ ?_
      · exact Schema.related_accepts_includes hR hV hkey _ (hV.key p.1)
      · exact Schema.related_accepts_includes hR hV hcontent _ (hV.contents hvalue p hp)
  | _ =>
      rw [test_dictionary_of_ne _ _ _ (by simp)]
      exact hR.refl false

/-- **Derived types follow predicates**: a predicate derived from schemas is related to
the type made of their types in the same way. -/
theorem inherited_related (hR : Compositional R) (hV : Value.Hereditary V) :
    Inherited (Related R V) where
  anyOf _ h := related_anyOf hR hV h
  orUndefined s h := by
    have hboth : ∀ t ∈ [s, .undefined], t.EveryPredicate (Related R V) :=
      List.forall_mem_cons.2 ⟨h, List.forall_mem_singleton.2 (.literal .undefined)⟩
    exact related_anyOf hR hV hboth
  dictionary _ _ hkey hcontent := related_dictionary hR hV hkey hcontent
  conforming s h := Schema.related_accepts_includes hR hV h
  anything _ _ := hR.refl true

/-! ## Honest predicates -/

/-- The claimed type has exactly the values that pass. -/
def Honest (p : Predicate) : Prop := ∀ value : Value, p.test value = p.claimed.includes value

/-- Of the values with `V`, the claimed type has exactly those that pass. -/
def HonestOn (V : Value → Prop) (p : Predicate) : Prop :=
  ∀ value : Value, V value → p.test value = p.claimed.includes value

/-- To be honest is to be so on all values. -/
theorem honestOn_everywhere : HonestOn (fun _ => True) = Honest :=
  funext fun _ => propext related_everywhere

/-- Accepts `null` only, and claims no more. -/
def nullOnly : Predicate := (ofTest Value.isNull).claiming (.literal .null)

theorem honest_nullOnly : Honest nullOnly := by
  intro value
  cases value <;> rfl

/-- Accepts `null`, and objects whose keys are out of order.  It claims `null` only, as no
object that is well formed is such an object. -/
def nullOrDisordered : Predicate :=
  (ofTest fun
    | .null => true
    | .object properties => !decide (properties.Pairwise fun p q => p.1 < q.1)
    | _ => false).claiming (.literal .null)

/-- The objects that make a difference are not well formed. -/
theorem honestOn_nullOrDisordered : HonestOn Value.WellFormed nullOrDisordered := by
  intro value hvalue
  cases value with
  | object properties =>
      have hsorted : properties.Pairwise fun p q => p.1 < q.1 := hvalue.1
      exact congrArg (!·) (decide_eq_true hsorted)
  | _ => rfl

/-- Asking for all values asks for more. -/
example : ¬Honest nullOrDisordered := fun h =>
  absurd (h (.object [("b", .null), ("a", .null)])) (by decide)

end Predicate

namespace Schema

open Predicate

/-- Where predicates are honest about the values of a hereditary kind, so are types. -/
theorem includes_eq_accepts {V : Value → Prop} (hV : Value.Hereditary V) {s : Schema}
    (hs : s.EveryPredicate (HonestOn V)) (value : Value) (hvalue : V value) :
    s.valueType.includes value = s.accepts value :=
  (related_accepts_includes .equal hV hs value hvalue).symm

/-- **Exact types**: where every predicate is honest, the values of the type are those
that conform.  Derived predicates are honest again, so this holds of every schema that
is composed with no other predicates than honest ones.  The same is true of well-formed
values where predicates are honest about these. -/
theorem valueType_exact :
    ((∀ s : Schema, s.EveryPredicate Honest →
        ∀ value : Value, s.valueType.includes value = s.accepts value) ∧
      Inherited Honest ∧
      (∀ s : Schema, s.Composed Honest →
        ∀ value : Value, s.valueType.includes value = s.accepts value)) ∧
    ((∀ s : Schema, s.EveryPredicate (HonestOn Value.WellFormed) →
        ∀ value : Value, value.WellFormed →
          s.valueType.includes value = s.accepts value) ∧
      Inherited (HonestOn Value.WellFormed) ∧
      (∀ s : Schema, s.Composed (HonestOn Value.WellFormed) →
        ∀ value : Value, value.WellFormed →
          s.valueType.includes value = s.accepts value)) := by
  rw [← honestOn_everywhere]
  have hall : Inherited (HonestOn fun _ => True) := inherited_related .equal .everywhere
  have hwellFormed : Inherited (HonestOn Value.WellFormed) := inherited_related .equal .wellFormed
  refine ⟨⟨fun s hs value => ?_, hall, fun s hs value => ?_⟩, fun s hs => ?_, hwellFormed,
    fun s hs => ?_⟩
  · exact includes_eq_accepts .everywhere hs value trivial
  · exact includes_eq_accepts .everywhere (hs.everyPredicate hall) value trivial
  · exact includes_eq_accepts .wellFormed hs
  · exact includes_eq_accepts .wellFormed (hs.everyPredicate hwellFormed)

/-- A tuple with a predicate of the caller, inside a derived predicate of an object. -/
def linkSchema (p : Predicate) : Schema :=
  .object [("link", .predicate (.orUndefined (.array [.string, .predicate p])))]

/-- The schema is composed of the predicate and of nothing else that is the caller's. -/
theorem composed_linkSchema {P : Predicate → Prop} {p : Predicate} (hp : P p) :
    (linkSchema p).Composed P := by
  have hpair : (array [.string, .predicate p]).Composed P :=
    .array _ (List.forall_mem_cons.2
      ⟨.string, List.forall_mem_singleton.2 (.predicate p hp)⟩)
  exact .object _ (List.forall_mem_singleton.2 (.orUndefined _ hpair))

/-- An object with a link to a value. -/
def linkTo (value : Value) : Value := .object [("link", .array [.string "a", value])]

theorem wellFormed_linkTo {value : Value} (h : value.WellFormed) : (linkTo value).WellFormed :=
  ⟨List.pairwise_singleton _ _, ⟨trivial, h, trivial⟩, trivial⟩

/-- A predicate that is honest, and one that is so on well-formed values only. -/
theorem valueType_exact_linkSchema :
    ((linkSchema nullOnly).EveryPredicate Honest ∧
      (linkSchema nullOnly).valueType.includes (linkTo .null) =
        (linkSchema nullOnly).accepts (linkTo .null)) ∧
    ((linkSchema nullOnly).Composed Honest ∧
      (linkSchema nullOnly).valueType.includes (linkTo .undefined) =
        (linkSchema nullOnly).accepts (linkTo .undefined)) ∧
    ((linkSchema nullOrDisordered).EveryPredicate (HonestOn Value.WellFormed) ∧
      (linkTo .null).WellFormed ∧
      (linkSchema nullOrDisordered).valueType.includes (linkTo .null) =
        (linkSchema nullOrDisordered).accepts (linkTo .null)) ∧
    ((linkSchema nullOrDisordered).Composed (HonestOn Value.WellFormed) ∧
      (linkTo (.object [])).WellFormed ∧
      (linkSchema nullOrDisordered).valueType.includes (linkTo (.object [])) =
        (linkSchema nullOrDisordered).accepts (linkTo (.object []))) := by
  have hhonest : (linkSchema nullOnly).Composed Honest := composed_linkSchema honest_nullOnly
  have hordered : (linkSchema nullOrDisordered).Composed (HonestOn Value.WellFormed) :=
    composed_linkSchema honestOn_nullOrDisordered
  have hevery := hhonest.everyPredicate valueType_exact.1.2.1
  have heveryOrdered := hordered.everyPredicate valueType_exact.2.2.1
  have hnull : (linkTo .null).WellFormed := wellFormed_linkTo trivial
  have hempty : (linkTo (.object [])).WellFormed := wellFormed_linkTo ⟨.nil, trivial⟩
  exact ⟨⟨hevery, valueType_exact.1.1 _ hevery _⟩, ⟨hhonest, valueType_exact.1.2.2 _ hhonest _⟩,
    ⟨heveryOrdered, hnull, valueType_exact.2.1 _ heveryOrdered _ hnull⟩,
    ⟨hordered, hempty, valueType_exact.2.2.2 _ hordered _ hempty⟩⟩

end Schema

/-! ## Sound predicates -/

namespace Predicate

/-- The claimed type has all values that pass, and perhaps others. -/
def Sound (p : Predicate) : Prop :=
  ∀ value : Value, p.test value = true → p.claimed.includes value = true

/-- Of the values with `V`, the claimed type has all that pass, and perhaps others. -/
def SoundOn (V : Value → Prop) (p : Predicate) : Prop :=
  ∀ value : Value, V value → p.test value = true → p.claimed.includes value = true

theorem soundOn_everywhere : SoundOn (fun _ => True) = Sound :=
  funext fun _ => propext (related_everywhere (R := fun a a' => a = true → a' = true))

/-- Accepts `true` only, and claims all booleans. -/
def trueOnly : Predicate := (ofTest (Literal.bool true).accepts).claiming .boolean

theorem sound_trueOnly : Sound trueOnly := by
  intro value h
  cases value with
  | bool b => rfl
  | _ => exact h

/-- What is honest is sound. -/
theorem soundOn_nullOrDisordered : SoundOn Value.WellFormed nullOrDisordered :=
  fun value hvalue htest => honestOn_nullOrDisordered value hvalue ▸ htest

end Predicate

namespace Schema

open Predicate

/-- **Sound types**: where every predicate is sound, a value that conforms has the type.
Derived predicates are sound again, and so is every predicate that claims nothing.  The
same is true of well-formed values where predicates are sound about these. -/
theorem valueType_sound :
    ((∀ s : Schema, s.EveryPredicate Sound →
        ∀ value : Value, s.accepts value = true → s.valueType.includes value = true) ∧
      Inherited Sound ∧
      (∀ p : Predicate, p.claimed = .unknown → Sound p)) ∧
    ((∀ s : Schema, s.EveryPredicate (SoundOn Value.WellFormed) →
        ∀ value : Value, value.WellFormed →
          s.accepts value = true → s.valueType.includes value = true) ∧
      Inherited (SoundOn Value.WellFormed)) := by
  refine ⟨⟨fun s hs value => ?_, ?_, fun p hp value _ => ?_⟩, fun s hs => ?_, ?_⟩
  · rw [← soundOn_everywhere] at hs
    exact related_accepts_includes .implied .everywhere hs value trivial
  · rw [← soundOn_everywhere]
    exact inherited_related .implied .everywhere
  · rw [hp, ValueType.includes]
  · exact related_accepts_includes .implied .wellFormed hs
  · exact inherited_related .implied .wellFormed

/-- An object with a derived predicate around a predicate of the caller. -/
def switchSchema (p : Predicate) : Schema :=
  .object [("on", .predicate (.anyOf [.string, .predicate p]))]

/-- A derived predicate has what its parts have, if it is inherited. -/
theorem everyPredicate_switchSchema {P : Predicate → Prop} (hP : Inherited P) {p : Predicate}
    (hp : P p) : (switchSchema p).EveryPredicate P := by
  have hmembers : ∀ s ∈ [Schema.string, .predicate p], s.EveryPredicate P :=
    List.forall_mem_cons.2 ⟨.string, List.forall_mem_singleton.2 (.predicate p hp)⟩
  exact .object _ (List.forall_mem_singleton.2 (.predicate _ (hP.anyOf _ hmembers)))

/-- Predicates that claim too much, and one that is sound on well-formed values only. -/
theorem valueType_sound_switchSchema :
    ((switchSchema trueOnly).EveryPredicate Sound ∧
      (switchSchema trueOnly).accepts (.object [("on", .bool true)]) = true ∧
      (switchSchema trueOnly).valueType.includes (.object [("on", .bool true)]) = true) ∧
    ((ofTest Value.isNull).claimed = .unknown ∧ Sound (ofTest Value.isNull)) ∧
    ((switchSchema nullOrDisordered).EveryPredicate (SoundOn Value.WellFormed) ∧
      (Value.object [("on", .null)]).WellFormed ∧
      (switchSchema nullOrDisordered).accepts (.object [("on", .null)]) = true ∧
      (switchSchema nullOrDisordered).valueType.includes (.object [("on", .null)]) = true) := by
  have hsound : (switchSchema trueOnly).EveryPredicate Sound :=
    everyPredicate_switchSchema valueType_sound.1.2.1 sound_trueOnly
  have hordered : (switchSchema nullOrDisordered).EveryPredicate (SoundOn Value.WellFormed) :=
    everyPredicate_switchSchema valueType_sound.2.2 soundOn_nullOrDisordered
  have htrue : (switchSchema trueOnly).accepts (.object [("on", .bool true)]) = true := by
    decide
  have hnull : (switchSchema nullOrDisordered).accepts (.object [("on", .null)]) = true := by
    decide
  have hwellFormed : (Value.object [("on", .null)]).WellFormed :=
    ⟨List.pairwise_singleton _ _, trivial, trivial⟩
  exact ⟨⟨hsound, htrue, valueType_sound.1.1 _ hsound _ htrue⟩,
    ⟨rfl, valueType_sound.1.2.2 _ rfl⟩,
    ⟨hordered, hwellFormed, hnull, valueType_sound.2.1 _ hordered _ hwellFormed hnull⟩⟩

end Schema

end Conformance
