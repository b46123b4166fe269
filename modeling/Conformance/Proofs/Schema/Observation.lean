import Conformance.Proofs.Schema.Congruence
import Conformance.Proofs.Value.Agreement

/-!
# Conformance.Proofs.Schema.Observation

What a schema can find out about a value.

* `Schema.EveryKey P` — every key that object schemas declare outside of predicates
  has `P`.
* `Predicate.Respects R` — the predicate answers the same for related values.
* `Schema.failures_eq_of_bisimulation` — a bisimulation on the declared keys that
  the predicates respect keeps all failures.
* `Schema.ReadsOnly keys` — schemas without predicates of the caller and without
  dictionaries that declare no other keys, not even inside of derived predicates.
  Values that agree on `keys` have the same mismatches for each of them.
-/

namespace Conformance

open Value (Bisimulation AgreeOn)

/-- The predicate answers the same for related values. -/
def Predicate.Respects (R : Value → Value → Prop) (p : Predicate) : Prop :=
  ∀ ⦃v w : Value⦄, R v w → p.test v = p.test w

namespace Schema

/-! ## Declared keys -/

/-- Every key that an object schema declares, at any depth but outside of predicates, has
the property. -/
inductive EveryKey (P : String → Prop) : Schema → Prop where
  | string : EveryKey P string
  | number : EveryKey P number
  | boolean : EveryKey P boolean
  | array (elements : List Schema) (h : ∀ e ∈ elements, EveryKey P e) :
      EveryKey P (array elements)
  | object (fields : List (String × Schema)) (hkeys : ∀ f ∈ fields, P f.1)
      (h : ∀ f ∈ fields, EveryKey P f.2) : EveryKey P (object fields)
  | ofClass (c : Class) : EveryKey P (ofClass c)
  | predicate (p : Predicate) : EveryKey P (predicate p)
  | literal (l : Literal) : EveryKey P (literal l)

/-! ## Bisimulations keep failures -/

variable {keys : Set String} {R : Value → Value → Prop}

/-- A value that is no array is one failure as a whole. -/
theorem failures_array_of_kind_ne (elements : List Schema) {value : Value} (path : String)
    (h : value.kind ≠ .array) : (array elements).failures value path = [path] := by
  cases value with
  | array items => exact absurd rfl h
  | _ => rfl

/-- **Observation**: schemas see no difference between values that a bisimulation on the
declared keys relates, if predicates see none. -/
theorem failures_eq_of_bisimulation (hR : Bisimulation keys R) {s : Schema}
    (hkeys : s.EveryKey (· ∈ keys)) (hpredicates : s.EveryPredicate (Predicate.Respects R))
    {v w : Value} (hvw : R v w) (path : String) : s.failures v path = s.failures w path := by
  have hkind := hR.kind_eq hvw
  induction hkeys generalizing v w path with
  | string | number | boolean => rw [failures, failures, hkind]
  | ofClass c => rw [failures, failures, hR.belongsTo_eq hvw]
  | literal l => rw [failures, failures, hR.accepts_eq hvw]
  | predicate p =>
      cases hpredicates with
      | predicate _ hp => rw [failures, failures, hp hvw]
  | array elements _ ih =>
      cases hpredicates with
      | array _ hpredicates =>
          by_cases harray : v.kind = .array
          · obtain ⟨vs, rfl⟩ := Value.kind_eq_array_iff.1 harray
            obtain ⟨ws, rfl⟩ := Value.kind_eq_array_iff.1 (hkind ▸ harray)
            have helements : List.Forall₂ (Failures.Related R (· = ·))
                (elements.map failures) (elements.map failures) := by
              rw [List.forall₂_same, List.forall_mem_map]
              exact fun e he v w hvw path => ih e he (hpredicates e he) hvw path (hR.kind_eq hvw)
            rw [failures_array, failures_array]
            exact PathRelation.equal.arrayFailures
              (fun hvw => Value.isUndefined_eq_of_kind_eq (hR.kind_eq hvw))
              helements (hR.items hvw) path
          · rw [failures_array_of_kind_ne elements path harray,
              failures_array_of_kind_ne elements path (hkind ▸ harray)]
  | object fields hdeclared _ ih =>
      cases hpredicates with
      | object _ hpredicates =>
          have hcarries := Value.hasProperties_eq_of_kind_eq hkind
          cases hv : v.hasProperties with
          | true =>
              rw [failures_object _ _ _ hv, failures_object _ _ _ (hcarries ▸ hv)]
              refine List.flatMap_congr fun f hf => ?_
              have hproperty := hR.property hvw f.1 (hdeclared f hf)
              exact ih f hf (hpredicates f hf) hproperty _ (hR.kind_eq hproperty)
          | false =>
              rw [failures_object_of_no_properties _ _ _ hv,
                failures_object_of_no_properties _ _ _ (hcarries ▸ hv)]

/-- Values that cannot be told apart conform to the same schemas. -/
theorem accepts_eq_of_bisimulation (hR : Bisimulation keys R) {s : Schema}
    (hkeys : s.EveryKey (· ∈ keys)) (hpredicates : s.EveryPredicate (Predicate.Respects R))
    {v w : Value} (hvw : R v w) : s.accepts v = s.accepts w := by
  rw [accepts_eq s v "", accepts_eq s w "",
    failures_eq_of_bisimulation hR hkeys hpredicates hvw]

/-! ## Schemas that read some keys only -/

/-- A schema built up from markers, classes and literals by way of arrays, objects and
the derived predicates other than dictionaries, in which all objects, also those
inside of derived predicates, declare keys among the given ones. -/
inductive ReadsOnly (keys : Set String) : Schema → Prop where
  | string : ReadsOnly keys string
  | number : ReadsOnly keys number
  | boolean : ReadsOnly keys boolean
  | array (elements : List Schema) (h : ∀ e ∈ elements, ReadsOnly keys e) :
      ReadsOnly keys (array elements)
  | object (fields : List (String × Schema)) (hkeys : ∀ f ∈ fields, f.1 ∈ keys)
      (h : ∀ f ∈ fields, ReadsOnly keys f.2) : ReadsOnly keys (object fields)
  | ofClass (c : Class) : ReadsOnly keys (ofClass c)
  | literal (l : Literal) : ReadsOnly keys (literal l)
  | anyOf (schemas : List Schema) (h : ∀ s ∈ schemas, ReadsOnly keys s) :
      ReadsOnly keys (predicate (.anyOf schemas))
  | orUndefined (s : Schema) (h : ReadsOnly keys s) :
      ReadsOnly keys (predicate (.orUndefined s))
  | conforming (s : Schema) (h : ReadsOnly keys s) :
      ReadsOnly keys (predicate (.conforming s))
  | anything : ReadsOnly keys (predicate .anything)

theorem ReadsOnly.everyKey {s : Schema} (hs : s.ReadsOnly keys) : s.EveryKey (· ∈ keys) := by
  induction hs with
  | string => exact .string
  | number => exact .number
  | boolean => exact .boolean
  | array elements _ ih => exact .array elements ih
  | object fields hkeys _ ih => exact .object fields hkeys ih
  | ofClass c => exact .ofClass c
  | literal l => exact .literal l
  | anyOf | orUndefined | conforming | anything => exact .predicate _

/-- Derived predicates look at a value in no other way than the schemas they are made
from, so they respect what these do. -/
theorem ReadsOnly.everyPredicate (hR : Bisimulation keys R) {s : Schema}
    (hs : s.ReadsOnly keys) : s.EveryPredicate (Predicate.Respects R) := by
  induction hs with
  | string => exact .string
  | number => exact .number
  | boolean => exact .boolean
  | array elements _ ih => exact .array elements ih
  | object fields _ _ ih => exact .object fields ih
  | ofClass c => exact .ofClass c
  | literal l => exact .literal l
  | anyOf schemas h ih =>
      refine .predicate _ fun v w hvw => ?_
      rw [Predicate.test_anyOf, Predicate.test_anyOf]
      exact Compositional.equal.any fun s hs =>
        accepts_eq_of_bisimulation hR (h s hs).everyKey (ih s hs) hvw
  | orUndefined s h ih =>
      refine .predicate _ fun v w hvw => ?_
      rw [Predicate.test_orUndefined, Predicate.test_orUndefined,
        accepts_eq_of_bisimulation hR h.everyKey ih hvw,
        Value.isUndefined_eq_of_kind_eq (hR.kind_eq hvw)]
  | conforming s h ih =>
      exact .predicate _ fun v w hvw => accepts_eq_of_bisimulation hR h.everyKey ih hvw
  | anything => exact .predicate _ fun _ _ _ => rfl

end Schema

/-! ## Mismatches of agreeing values -/

namespace Schema

/-- A record with a union, an optional property and, behind a derived predicate, objects
inside of an array. -/
def profile : Schema :=
  .object [("name", .predicate (.anyOf [.string, .null])),
    ("nick", .predicate (.orUndefined .string)),
    ("tags", .arrayOf (.predicate (.conforming (.object [("id", .number)]))))]

/-- The keys of `profile`. -/
def profileKeys : Set String := {key | key ∈ ["name", "nick", "tags", "id"]}

theorem readsOnly_profile : profile.ReadsOnly profileKeys := by
  have htag : (Schema.object [("id", .number)]).ReadsOnly profileKeys :=
    .object _ (by simp [profileKeys]) (List.forall_mem_singleton.2 .number)
  have hname : (Schema.predicate (.anyOf [.string, .null])).ReadsOnly profileKeys :=
    .anyOf _ (List.forall_mem_cons.2 ⟨.string, List.forall_mem_singleton.2 (.literal _)⟩)
  have htags : (Schema.arrayOf (.predicate (.conforming (.object [("id", .number)])))).ReadsOnly
      profileKeys := .array _ (List.forall_mem_singleton.2 (.conforming _ htag))
  refine .object _ (by simp [profileKeys]) ?_
  exact List.forall_mem_cons.2 ⟨hname, List.forall_mem_cons.2
    ⟨.orUndefined _ .string, List.forall_mem_singleton.2 htags⟩⟩

/-- A profile with properties that `profile` does not declare, and with `undefined` in
places where `shortProfile` has nothing. -/
def longProfile : Value :=
  .object [("color", .string "red"), ("name", .bool true), ("nick", .undefined),
    ("tags", .array [.object [("id", .undefined), ("size", .number 3)]])]

def shortProfile : Value := .object [("name", .bool true), ("tags", .array [.object []])]

/-- The profiles differ in what is not read, and where one has `undefined` for what the
other lacks. -/
theorem agreeOn_profiles : longProfile.AgreeOn profileKeys shortProfile := by
  have htag : AgreeOn profileKeys (.object [("id", .undefined), ("size", .number 3)])
      (.object []) := by
    refine .object fun key hkey => ?_
    simp only [profileKeys, Set.mem_ofPred_eq, List.mem_cons, List.not_mem_nil, or_false] at hkey
    rcases hkey with rfl | rfl | rfl | rfl <;> exact .undefined
  refine .object fun key hkey => ?_
  simp only [profileKeys, Set.mem_ofPred_eq, List.mem_cons, List.not_mem_nil, or_false] at hkey
  rcases hkey with rfl | rfl | rfl | rfl
  · exact .bool true
  · exact .undefined
  · exact .array (.cons htag .nil)
  · exact .undefined

end Schema

namespace Matcher

open Schema (ReadsOnly)

/-- **Only declared properties are read**: values that agree on the keys a schema reads
have the same mismatches, whatever the matcher calls them and however many it wants. -/
theorem paths_eq_of_agreeOn {keys : Set String} {schema : Schema}
    (hschema : schema.ReadsOnly keys) {v w : Value} (hvw : v.AgreeOn keys w) (m : Matcher) :
    m.paths v schema = m.paths w schema := by
  have hR := Value.bisimulation_agreeOn keys
  rw [paths, paths, pathsFrom_eq_wanted, pathsFrom_eq_wanted,
    Schema.failures_eq_of_bisimulation hR hschema.everyKey (hschema.everyPredicate hR) hvw]

/-- Two profiles, with the same mismatches under a cap. -/
theorem paths_eq_of_agreeOn_profiles :
    Schema.profile.ReadsOnly Schema.profileKeys ∧
      Schema.longProfile.AgreeOn Schema.profileKeys Schema.shortProfile ∧
      ({ root := "profile", maxMismatches := some 2 } : Matcher).paths Schema.longProfile
          Schema.profile =
        ({ root := "profile", maxMismatches := some 2 } : Matcher).paths Schema.shortProfile
          Schema.profile ∧
      ({ root := "profile", maxMismatches := some 2 } : Matcher).paths Schema.shortProfile
          Schema.profile = ["profile.name", "profile.tags[0]"] :=
  ⟨Schema.readsOnly_profile, Schema.agreeOn_profiles,
    paths_eq_of_agreeOn Schema.readsOnly_profile Schema.agreeOn_profiles _, by decide⟩

end Matcher

end Conformance
