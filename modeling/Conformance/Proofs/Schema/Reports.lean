import Mathlib.Logic.Relation
import Conformance.Proofs.Schema.Structure

/-!
# Conformance.Proofs.Schema.Reports

What an exploration reports, and what it keeps.

Adding a mismatch logs it in any case, but keeps it only if there is room.  The two would
part as soon as a mismatch is added to full findings, so this must not happen:

* `Findings.Run` — to get from earlier findings to later ones, mismatches are added below
  the cap, and what predicates report is noted.
* `run_explore` — every exploration is such a run, by induction on the schema.  Where there
  may be no room any more, nothing is added: a tuple counts its mismatches, and compares
  its length only if there are no more than before.
* `Findings.Run.faithful` — a run that starts with as many reports as mismatches ends so.
-/

namespace Conformance

namespace Findings

variable {cap : Option Nat} {found later : Findings}

/-! ## Runs -/

/-- One step of an exploration. -/
inductive Step (cap : Option Nat) : Findings → Findings → Prop where
  /-- A mismatch is added while there is room for it. -/
  | add (found : Findings) (place : Place) (expected : Expectation) (value : Value)
      (hroom : found.isFull cap = false) : Step cap found (found.add cap place expected value)
  /-- What a predicate has reported is noted. -/
  | note (found : Findings) (events : List Event) : Step cap found (found.note events)

/-- Any number of steps. -/
def Run (cap : Option Nat) : Findings → Findings → Prop := Relation.ReflTransGen (Step cap)

theorem Run.refl (cap : Option Nat) (found : Findings) : Run cap found found :=
  Relation.ReflTransGen.refl

theorem Run.trans {last : Findings} (h₁ : Run cap found later) (h₂ : Run cap later last) :
    Run cap found last :=
  Relation.ReflTransGen.trans h₁ h₂

theorem Step.run (h : Step cap found later) : Run cap found later :=
  Relation.ReflTransGen.single h

/-- A run that is taken below the cap only. -/
theorem Run.unless_isFull (h : found.isFull cap = false → Run cap found later) :
    Run cap found (if found.isFull cap then found else later) := by
  cases hroom : found.isFull cap with
  | true => exact Run.refl cap found
  | false => exact h hroom

/-- A check is a run if it fails only where there is room. -/
theorem run_addUnless {isMet : Bool} (h : isMet = false → found.isFull cap = false)
    (place : Place) (expected : Expectation) (value : Value) :
    Run cap found (found.addUnless isMet cap place expected value) := by
  cases isMet with
  | true => exact Run.refl cap found
  | false => exact (Step.add found place expected value (h rfl)).run

/-- A loop is a run if each of its rounds is. -/
theorem run_foldl {α : Type} {step : Findings → α → Findings}
    (h : ∀ a found, Run cap found (step found a)) (as : List α) (found : Findings) :
    Run cap found (as.foldl step found) := by
  induction as generalizing found with
  | nil => exact Run.refl cap found
  | cons a as ih => exact (h a found).trans (ih (step found a))

/-- The items behind a tuple are looked at below the cap only. -/
theorem run_addExcess (place : Place) (index : Nat) (items : List Value) (found : Findings) :
    Run cap found (found.addExcess cap place index items) := by
  induction items generalizing index found with
  | nil => exact Run.refl cap found
  | cons item items ih =>
      rw [addExcess]
      refine (run_addUnless (fun hmet => ?_) _ _ _).trans (ih _ _)
      exact (Bool.or_eq_false_iff.1 hmet).1

/-- The length is compared only where there are as many mismatches as when there was
room. -/
theorem run_addLength (hroom : found.isFull cap = false) (place : Place) (arity : Nat)
    (items : List Value) :
    Run cap later (later.addLength cap place arity items found.mismatches.size) := by
  refine run_addUnless (fun hmet => ?_) place .tupleLength (.array items)
  have hsize : later.mismatches.size = found.mismatches.size :=
    bne_eq_false_iff_eq.1 (Bool.or_eq_false_iff.1 hmet).1
  rw [isFull, hsize]
  exact hroom

/-! ## Reports -/

/-- The event of a line of the log, if it is one of the exploration itself. -/
def Entry.report? : Entry → Option Event
  | own m => some (.mismatch m)
  | inner _ => none

/-- The events of the exploration itself, without those of predicates. -/
def reports (found : Findings) : List Event := found.log.toList.filterMap Entry.report?

/-- What was reported is what was kept, one for one and in the same order. -/
def Faithful (found : Findings) : Prop :=
  found.reports = found.mismatches.toList.map .mismatch

/-- At the start nothing was found and nothing reported. -/
theorem faithful_empty : Faithful {} := rfl

/-- Below the cap, what is logged is kept as well. -/
theorem faithful_add (hroom : found.isFull cap = false) (h : found.Faithful) (place : Place)
    (expected : Expectation) (value : Value) :
    (found.add cap place expected value).Faithful := by
  obtain ⟨mismatches, log⟩ := found
  have hroom : reaches mismatches.size cap = false := hroom
  simp only [Faithful, reports] at h
  simp only [Faithful, reports, add, hroom, Bool.false_eq_true, if_false, Array.toList_push,
    List.filterMap_append, List.map_append, h]
  rfl

/-- What predicates report is none of the exploration's own reports. -/
theorem faithful_note (h : found.Faithful) (events : List Event) :
    (found.note events).Faithful := by
  have hinner : (events.map Entry.inner).filterMap Entry.report? = [] := by
    rw [List.filterMap_map]
    exact List.filterMap_eq_nil_iff.2 fun _ _ => rfl
  rw [Faithful] at h ⊢
  rw [reports, note, Array.toList_append, List.filterMap_append, hinner, List.append_nil]
  exact h

theorem Step.faithful (hstep : Step cap found later) (h : found.Faithful) : later.Faithful := by
  cases hstep with
  | add place expected value hroom => exact faithful_add hroom h place expected value
  | note events => exact faithful_note h events

/-- A run keeps the log faithful, by induction on its steps. -/
theorem Run.faithful (hrun : Run cap found later) (h : found.Faithful) : later.Faithful := by
  induction hrun with
  | refl => exact h
  | tail _ hstep ih => exact hstep.faithful ih

end Findings

/-! ## Exploring -/

namespace Schema

open Findings

variable {cap : Option Nat}

/-- Exploring a schema is a run. -/
def Runs (cap : Option Nat) (s : Schema) : Prop :=
  ∀ (value : Value) (place : Place) (found : Findings),
    Run cap found (s.explore cap value place found)

/-- The exploration of a tuple is a run, one position after the other. -/
theorem run_exploreTuple {elements : List Schema} (h : ∀ e ∈ elements, e.Runs cap)
    (items : List Value) (index : Nat) (place : Place) (found : Findings) :
    Run cap found (exploreTuple cap elements items index place found) := by
  induction elements generalizing items index found with
  | nil =>
      cases items with
      | nil => exact Run.refl cap found
      | cons item items => exact run_addExcess place index _ found
  | cons e elements ih =>
      obtain ⟨he, helements⟩ := List.forall_mem_cons.1 h
      cases items with
      | nil => exact Run.refl cap found
      | cons item items => exact (he item _ found).trans (ih helements items _ _)

theorem run_exploreFields {fields : List (String × Schema)} (h : ∀ f ∈ fields, f.2.Runs cap)
    (value : Value) (place : Place) (found : Findings) :
    Run cap found (exploreFields cap fields value place found) := by
  induction fields generalizing found with
  | nil => exact Run.refl cap found
  | cons f fields ih =>
      obtain ⟨hf, hfields⟩ := List.forall_mem_cons.1 h
      exact (hf _ _ found).trans (ih hfields _)

/-- The exploration of an array is a run, whichever rule it follows. -/
theorem run_explore_array {elements : List Schema} (h : ∀ e ∈ elements, e.Runs cap)
    (items : List Value) (place : Place) (found : Findings) :
    Run cap found ((array elements).explore cap (.array items) place found) := by
  match elements, h with
  | [], _ =>
      rw [explore]
      exact Run.unless_isFull fun _ => Run.refl cap found
  | [e], h =>
      rw [explore]
      exact Run.unless_isFull fun _ =>
        run_foldl (fun item => h e List.mem_cons_self item.1 _) items.zipIdx found
  | e₁ :: e₂ :: es, h =>
      rw [explore]
      · exact Run.unless_isFull fun hroom =>
          (run_exploreTuple h items 0 place found).trans
            (run_addLength hroom place (e₁ :: e₂ :: es).length items)
      · simp
      · simp

/-- **Explorations are runs**: whatever has been found before, mismatches are added below
the cap only. -/
theorem run_explore (cap : Option Nat) (s : Schema) (value : Value) (place : Place)
    (found : Findings) : Run cap found (s.explore cap value place found) := by
  induction s using Schema.induction generalizing value place found with
  | string | number | boolean | ofClass c | literal l =>
      rw [explore]
      exact Run.unless_isFull fun hroom => run_addUnless (fun _ => hroom) place _ value
  | predicate p =>
      rw [explore]
      refine Run.unless_isFull fun hroom => ?_
      -- Noting leaves the room as it is.
      have hnoted : (found.note (p.check value).events).isFull cap = false := hroom
      exact (Step.note found (p.check value).events).run.trans
        (run_addUnless (fun _ => hnoted) place .predicate value)
  | array elements ih =>
      cases value with
      | array items => exact run_explore_array ih items place found
      | _ =>
          simp only [explore]
          exact Run.unless_isFull fun hroom => (Step.add found place .array _ hroom).run
  | object fields ih =>
      rw [explore]
      refine Run.unless_isFull fun hroom => ?_
      cases value.hasProperties with
      | true => exact run_exploreFields ih value place found
      | false => exact (Step.add found place .object value hroom).run

end Schema

end Conformance
