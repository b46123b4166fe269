import Conformance.Proofs.Schema.Simulation
import Conformance.Proofs.Value.ArrayAccess
import Conformance.Proofs.Value.Equality

/-!
# Conformance.Proofs.Schema.EqualValues

How far schemas can tell equal values apart.

Equality of host objects is identity, but what a schema sees of a host object are the
classes it belongs to, and copies of one object may have been declared to belong to
different ones.  This is the only difference there can be between equal values:

* `Value.Indistinct.failures_eq` — equal values with the same classes in the same
  places have the same failures, since dictionaries go through the same properties.
* `Value.sameClasses_of_indiscernible` — schemas can look everywhere: an item or a
  property is what an object schema with one field reads, and a class decides there.
* `Matcher.indiscernible_iff_sameClasses` — so nothing but the classes matters.
* `Matcher.not_indiscernible_of_beq` — equality by itself is not enough for that.
-/

namespace Conformance

namespace Value

/-! ## The same classes -/

/-- Indistinct objects have the same keys in the same places, so a dictionary asks
indistinct values for the same. -/
theorem storeAlike_indistinct {Q : Bool → Bool → Prop} (hQ : Compositional Q) :
    StoreAlike Q Indistinct := by
  intro ps qs hobjects f g hfg
  exact hQ.all_of_forall₂ (hobjects.properties.imp fun p q hpq => hfg p q hpq.1 hpq.2)

/-- **Equal values** with the same classes in the same places have the same failures. -/
theorem Indistinct.failures_eq {v w : Value} (h : Indistinct v w) {s : Schema}
    (hs : s.SelfContained) (path : String) : s.failures v path = s.failures w path := by
  have hderived : Predicate.Inherited (Predicate.Respects Indistinct) :=
    Predicate.inherited_follows .equal bisimulation_indistinct (storeAlike_indistinct .equal)
  exact Schema.failures_eq_of_bisimulation bisimulation_indistinct s.everyKey_univ
    (hs.everyPredicate hderived) h path

/-! ## Looking everywhere -/

/-- No schema without predicates of the caller tells the values apart. -/
def Indiscernible (v w : Value) : Prop :=
  ∀ s : Schema, s.SelfContained → s.accepts v = s.accepts w

namespace Indiscernible

variable {v w : Value}

theorem belongsTo (h : v.Indiscernible w) (c : Class) : v.belongsTo c = w.belongsTo c := by
  rw [← Schema.accepts_ofClass, ← Schema.accepts_ofClass]
  exact h _ (.ofClass c)

/-- What schemas find under a key is indiscernible again. -/
theorem property (h : v.Indiscernible w) (hv : v.hasProperties = true)
    (hw : w.hasProperties = true) (key : String) :
    (v.property key).Indiscernible (w.property key) := by
  intro s hs
  have hone : (Schema.object [(key, s)]).SelfContained :=
    .object _ (List.forall_mem_singleton.2 hs)
  simpa [hv, hw] using h _ hone

/-- Items in one place are indiscernible, since an object schema can ask for the index. -/
theorem items {vs ws : List Value} (h : (array vs).Indiscernible (array ws)) {i : Nat}
    (hi : i < vs.length) (hi' : i < ws.length) : vs[i].Indiscernible ws[i] := by
  rw [← property_array_toString hi, ← property_array_toString hi']
  exact h.property rfl rfl _

/-- Contents under one key are indiscernible, since an object schema can ask for the key. -/
theorem properties {ps qs : List (String × Value)} (h : (object ps).Indiscernible (object qs))
    {key : String} (hv : ps.lookup key = some v) (hw : qs.lookup key = some w) :
    v.Indiscernible w := by
  have hfound := h.property rfl rfl key
  rwa [Value.property, Value.property, hv, hw] at hfound

end Indiscernible

/-- **Classes show**: what no schema tells apart belongs to the same classes, in every
place where there is a host object. -/
theorem sameClasses_of_indiscernible {v w : Value} (hwf : v.WellFormed)
    (hvw : (v == w) = true) (h : v.Indiscernible w) :
    List.Forall₂ HostObject.SameClasses v.hosts w.hosts := by
  have hkind := kind_eq_of_beq hvw
  induction v using Value.induction generalizing w with
  | undefined | null | bool | number | string =>
      have hnone : w.hosts = [] := List.length_eq_zero_iff.1 (length_hosts_of_beq hvw).symm
      rw [hnone]
      exact .nil
  | host i =>
      cases w with
      | host j => exact .cons h.belongsTo .nil
      | _ => simp [kind] at hkind
  | array vs ih =>
      obtain ⟨ws, rfl⟩ := kind_eq_array_iff.1 hkind.symm
      have hequal := List.forall₂_iff_get.1 (beqItems_iff.1 hvw)
      have hitems : List.Forall₂
          (fun v w => List.Forall₂ HostObject.SameClasses v.hosts w.hosts) vs ws := by
        refine List.forall₂_iff_get.2 ⟨hequal.1, fun i hi hi' => ?_⟩
        have hbeq := hequal.2 i hi hi'
        exact ih _ (List.getElem_mem hi) (itemsWellFormed_iff.1 hwf _ (List.getElem_mem hi)) hbeq
          (h.items hi hi') (kind_eq_of_beq hbeq)
      rw [hosts_array, hosts_array]
      exact List.rel_flatMap hitems fun _ _ hvw => hvw
  | object ps ih =>
      obtain ⟨qs, rfl⟩ := kind_eq_object_iff.1 hkind.symm
      obtain ⟨hsorted, hwf⟩ := hwf
      have hequal := beqProperties_iff.1 hvw
      have hproperties : List.Forall₂ (fun p q : String × Value =>
          List.Forall₂ HostObject.SameClasses p.2.hosts q.2.hosts) ps qs := by
        refine forall₂_of_lookup
          (R := fun v w => List.Forall₂ HostObject.SameClasses v.hosts w.hosts)
          (hequal.imp fun p q hpq => hpq.1) hsorted.nodup_keys ?_
        intro key v w hv hw
        have hmem := mem_of_lookup hv
        have hcontents := lookup_related (R := fun v w => (v == w) = true) hequal key
        rw [hv, hw, Option.rel_some_some] at hcontents
        exact ih _ hmem (propertiesWellFormed_iff.1 hwf _ hmem) hcontents
          (h.properties hv hw) (kind_eq_of_beq hcontents)
      rw [hosts_object, hosts_object]
      exact List.rel_flatMap hproperties fun _ _ hpq => hpq

end Value

/-! ## Main statement -/

namespace HostObject

def shape : Class := ⟨0, "Shape"⟩

def round : Class := ⟨1, "Round"⟩

/-- A host object that belongs to no class but its own. -/
def circle : HostObject := .ofClass ⟨2, "Circle"⟩ 0

/-- The order of two declarations makes no difference to the classes. -/
theorem sameClasses_declare_comm (i : HostObject) (c d : Class) :
    SameClasses ((i.declare c).declare d) ((i.declare d).declare c) := by
  intro b
  rw [Bool.eq_iff_iff]
  simp only [belongsTo_declare]
  exact or_left_comm

end HostObject

namespace Matcher

open HostObject (SameClasses circle round shape sameClasses_declare_comm)

/-- **Equal values**: schemas and their types make no difference between two equal values
if and only if the host objects in the same places belong to the same classes. -/
theorem indiscernible_iff_sameClasses {v w : Value} (hwf : v.WellFormed)
    (hvw : (v == w) = true) :
    (∀ schema : Schema, schema.SelfContained →
        (∀ m : Matcher, m.paths v schema = m.paths w schema) ∧
        schema.valueType.includes v = schema.valueType.includes w) ↔
      List.Forall₂ SameClasses v.hosts w.hosts := by
  constructor
  · intro h
    refine Value.sameClasses_of_indiscernible hwf hvw fun s hs => ?_
    have hpaths := (h s hs).1 {}
    rw [paths, paths, pathsFrom_eq_wanted, pathsFrom_eq_wanted] at hpaths
    rw [s.accepts_eq v "value", s.accepts_eq w "value"]
    exact congrArg List.isEmpty hpaths
  · intro hhosts schema hschema
    have hindistinct : Value.Indistinct v w := ⟨hvw, hhosts⟩
    have hfailures := hindistinct.failures_eq hschema
    have hexact (value : Value) : schema.accepts value = schema.valueType.includes value :=
      Schema.related_accepts_includes .equal .everywhere
        (hschema.everyPredicate (Predicate.inherited_related .equal .everywhere)) value trivial
    refine ⟨fun m => ?_, ?_⟩
    · rw [paths, paths, pathsFrom_eq_wanted, pathsFrom_eq_wanted, hfailures]
    · rw [← hexact v, ← hexact w, schema.accepts_eq v "", schema.accepts_eq w "", hfailures]

/-- A host object with a number that says where it is. -/
def placed (x : Binary64) (i : HostObject) : Value :=
  .object [("at", .number x), ("what", .host i)]

/-- Copies of one object with the same declarations in either order, at either zero. -/
theorem indiscernible_iff_sameClasses_placed :
    (placed 0 ((circle.declare shape).declare round)).WellFormed ∧
      (placed 0 ((circle.declare shape).declare round) ==
        placed (-0) ((circle.declare round).declare shape)) = true ∧
      ∀ schema : Schema, schema.SelfContained →
        (∀ m : Matcher,
          m.paths (placed 0 ((circle.declare shape).declare round)) schema =
            m.paths (placed (-0) ((circle.declare round).declare shape)) schema) ∧
        schema.valueType.includes (placed 0 ((circle.declare shape).declare round)) =
          schema.valueType.includes
            (placed (-0) ((circle.declare round).declare shape)) := by
  have hwf : (placed 0 ((circle.declare shape).declare round)).WellFormed :=
    ⟨List.pairwise_pair.2 (by decide), trivial, trivial, trivial⟩
  have hbeq : (placed 0 ((circle.declare shape).declare round) ==
      placed (-0) ((circle.declare round).declare shape)) = true := by decide
  exact ⟨hwf, hbeq, (indiscernible_iff_sameClasses hwf hbeq).2
    (.cons (sameClasses_declare_comm circle shape round) .nil)⟩

/-- Copies of one host object are equal, also when only one of them has been declared to
be a shape. -/
theorem not_indiscernible_of_beq :
    ¬∀ (v w : Value) (schema : Schema), v.WellFormed → w.WellFormed → (v == w) = true →
      schema.SelfContained →
        (∀ m : Matcher, m.paths v schema = m.paths w schema) ∧
        schema.valueType.includes v = schema.valueType.includes w := by
  intro h
  have hpaths := (h (.host circle) (.host (circle.declare shape)) (.ofClass shape)
    trivial trivial rfl (.ofClass _)).1 {}
  exact absurd hpaths (by decide)

end Matcher

end Conformance
