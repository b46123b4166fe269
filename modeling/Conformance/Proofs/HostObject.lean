import Mathlib.Data.List.Induction
import Conformance.Proofs.Schema.EqualValues

/-!
# Conformance.Proofs.HostObject

What a history of declarations makes of a host object.

A class that an object belongs to already is not declared again.  So of all declarations of
a class the first one decides where it stands, the others make no difference, and the class
of the object itself never gets into the list:

* `belongsTo_declareAll` — an object belongs to the classes that it belonged to before, and
  to those of the history.
* `mem_declared_declareAll`, `pairwise_declared_declareAll` — which classes are declared in
  the end, and in which order.  The order is an induction on the history, with the last
  declaration as the step.
* `indiscernible_host_iff` — of two copies of one object, schemas see nothing but the
  classes they belong to.
* `declared_once_in_order` — the statement for new objects.  What conforms does not depend
  on the order of the declarations, nor on how often a class has been declared.
-/

namespace Conformance.HostObject

variable {i : HostObject} {c d : Class} {cs ds : List Class}

/-! ## Histories -/

theorem declareAll_cons (i : HostObject) (c : Class) (cs : List Class) :
    i.declareAll (c :: cs) = (i.declare c).declareAll cs := rfl

/-- The last declaration is the last step. -/
theorem declareAll_concat (i : HostObject) (cs : List Class) (c : Class) :
    i.declareAll (cs ++ [c]) = (i.declareAll cs).declare c :=
  List.foldl_concat _ _ _ _

/-- What no declaration changes is not changed by many. -/
theorem declareAll_frame {α : Type} {f : HostObject → α} (h : ∀ i c, f (declare i c) = f i)
    (i : HostObject) (cs : List Class) : f (i.declareAll cs) = f i := by
  induction cs generalizing i with
  | nil => rfl
  | cons c cs ih => rw [declareAll_cons, ih, h]

@[simp] theorem concrete_declareAll (i : HostObject) (cs : List Class) :
    (i.declareAll cs).concrete = i.concrete := declareAll_frame concrete_declare i cs

/-- With any history, an object remains itself. -/
@[simp] theorem identity_declareAll (i : HostObject) (cs : List Class) :
    (i.declareAll cs).identity = i.identity := declareAll_frame identity_declare i cs

@[simp] theorem payload_declareAll (i : HostObject) (cs : List Class) :
    (i.declareAll cs).payload = i.payload := declareAll_frame payload_declare i cs

/-- Copies of one object are equal, whatever has been declared of each. -/
theorem declareAll_beq_declareAll (i : HostObject) (cs ds : List Class) :
    (i.declareAll cs == i.declareAll ds) = true := by
  rw [beq_iff, identity_declareAll, identity_declareAll]

/-- **Classes add up**: an object belongs to what it belonged to and to what is declared. -/
theorem belongsTo_declareAll :
    (i.declareAll cs).belongsTo d = true ↔ i.belongsTo d = true ∨ d ∈ cs := by
  induction cs generalizing i with
  | nil => exact (or_iff_left List.not_mem_nil).symm
  | cons c cs ih =>
      rw [declareAll_cons, ih, belongsTo_declare, List.mem_cons, or_assoc, or_left_comm]

/-! ## The list of declared classes -/

/-- An object's own class is never in the list, so the list has all the others. -/
theorem mem_declared_iff : d ∈ i.declared ↔ i.belongsTo d = true ∧ d ≠ i.concrete := by
  rw [belongsTo_iff]
  constructor
  · intro h
    exact ⟨.inr h, ne_of_mem_of_not_mem h i.concrete_notMem⟩
  · rintro ⟨h | h, hne⟩
    · exact absurd h.symm hne
    · exact h

/-- Declared in the end is what was declared before or in the history, but for the class of
the object itself. -/
theorem mem_declared_declareAll :
    d ∈ (i.declareAll cs).declared ↔ d ∈ i.declared ∨ d ∈ cs ∧ d ≠ i.concrete := by
  rw [mem_declared_iff, belongsTo_declareAll, concrete_declareAll, mem_declared_iff, or_and_right]

/-- Nothing is declared that the history does not name. -/
theorem declared_declareAll_subset (i : HostObject) (cs : List Class) :
    (i.declareAll cs).declared ⊆ i.declared ++ cs := fun _ h =>
  List.mem_append.2 ((mem_declared_declareAll.1 h).imp_right And.left)

/-- **First declarations count**: the classes that have been there before come first, and
the others stand in the order in which they have been declared first. -/
theorem pairwise_declared_declareAll (i : HostObject) (cs : List Class) :
    (i.declareAll cs).declared.Pairwise fun c d =>
      (i.declared ++ cs).idxOf c < (i.declared ++ cs).idxOf d := by
  induction cs using List.reverseRecOn with
  | nil =>
      rw [List.append_nil]
      exact pairwise_idxOf_self i.nodup_declared
  | append_singleton cs c ih =>
      have hnamed := declared_declareAll_subset i cs
      rw [declareAll_concat, declared_declare, ← List.append_assoc]
      split
      case isTrue => exact pairwise_idxOf_append hnamed ih [c]
      case isFalse hnew =>
        refine pairwise_idxOf_concat hnamed ih fun h => hnew (belongsTo_declareAll.2 ?_)
        rw [belongsTo_iff]
        exact (List.mem_append.1 h).imp_left .inr

/-! ## Copies of one object -/

/-- Copies belong to the same classes if the same ones are new to them. -/
theorem sameClasses_declareAll_iff :
    SameClasses (i.declareAll cs) (i.declareAll ds) ↔
      ∀ d, i.belongsTo d = false → (d ∈ cs ↔ d ∈ ds) := by
  refine forall_congr' fun d => ?_
  rw [Bool.eq_iff_iff, belongsTo_declareAll, belongsTo_declareAll]
  cases i.belongsTo d <;> simp

/-- **Classes are all there is to see**: schemas tell copies of one object apart exactly by
the classes they belong to. -/
theorem indiscernible_host_iff {i j : HostObject} (hij : (i == j) = true) :
    (Value.host i).Indiscernible (.host j) ↔ SameClasses i j := by
  refine ⟨fun h c => h.belongsTo c, fun h schema hschema => ?_⟩
  have hindistinct : Value.Indistinct (.host i) (.host j) := ⟨hij, .cons h .nil⟩
  rw [schema.accepts_eq _ "", schema.accepts_eq _ "", hindistinct.failures_eq hschema]

/-- **Sets of classes**: copies conform to the same schemas if and only if the same classes
are new to them. -/
theorem accepts_declareAll_eq_iff :
    (∀ schema : Schema, schema.SelfContained → ∀ m : Matcher,
        m.accepts (.host (i.declareAll cs)) schema =
          m.accepts (.host (i.declareAll ds)) schema) ↔
      ∀ d, i.belongsTo d = false → (d ∈ cs ↔ d ∈ ds) := by
  have hseen := indiscernible_host_iff (declareAll_beq_declareAll i cs ds)
  rw [← sameClasses_declareAll_iff, ← hseen]
  constructor
  · intro h schema hschema
    have hdefault := h schema hschema {}
    rwa [Schema.accepts_matcher, Schema.accepts_matcher] at hdefault
  · intro h schema hschema m
    rw [Schema.accepts_matcher, Schema.accepts_matcher, h schema hschema]

/-! ## New objects -/

/-- A new object belongs to the class it was made with and to no other. -/
theorem belongsTo_ofClass (identity : Nat) (payload : Payload) :
    (ofClass c identity payload).belongsTo d = true ↔ d = c := by
  rw [belongsTo_iff]
  exact (or_iff_left List.not_mem_nil).trans eq_comm

/-- **Declared once, in order**: after any declarations of a new object, its list has every
declared class but its own exactly once, in the order of the first declarations.  The object
belongs to these classes and its own, and nothing else about it has changed.  Two copies of
it conform to the same schemas if and only if the same classes have been declared of them,
in whatever order and however often. -/
theorem declared_once_in_order (c : Class) (identity : Nat) (payload : Payload)
    (cs : List Class) :
    let i := ofClass c identity payload
    let j := i.declareAll cs
    (∀ d, j.declared.count d = if d ∈ cs ∧ d ≠ c then 1 else 0) ∧
    (j.declared.Pairwise fun d e => cs.idxOf d < cs.idxOf e) ∧
    (∀ d, j.belongsTo d = true ↔ d = c ∨ d ∈ cs) ∧
    (j.concrete = c ∧ j.identity = identity ∧ j.payload = payload ∧ (j == i) = true) ∧
    ∀ ds : List Class,
      (∀ schema : Schema, schema.SelfContained → ∀ m : Matcher,
        m.accepts (.host j) schema = m.accepts (.host (i.declareAll ds)) schema) ↔
      ∀ d, d ≠ c → (d ∈ cs ↔ d ∈ ds) := by
  intro i j
  have hclass (d : Class) : i.belongsTo d = true ↔ d = c := belongsTo_ofClass identity payload
  refine ⟨fun d => ?_, pairwise_declared_declareAll i cs, fun d => ?_,
    ⟨concrete_declareAll i cs, identity_declareAll i cs, payload_declareAll i cs,
      declareAll_beq_declareAll i cs []⟩, fun ds => ?_⟩
  · have hmem : d ∈ j.declared ↔ d ∈ cs ∧ d ≠ c :=
      mem_declared_declareAll.trans (or_iff_right List.not_mem_nil)
    rw [j.nodup_declared.count]
    exact if_congr hmem rfl rfl
  · rw [belongsTo_declareAll, hclass]
  · have hnew (d : Class) : i.belongsTo d = false ↔ d ≠ c := by
      rw [← Bool.not_eq_true, hclass]
    simp only [← hnew]
    exact accepts_declareAll_eq_iff

/-- Its own class and a class for the second time leave no trace. A class that only has
the name of its own does. -/
example : (circle.declareAll [shape, circle.concrete, ⟨3, "Circle"⟩, shape]).declared =
    [shape, ⟨3, "Circle"⟩] := by decide

end Conformance.HostObject
