import Conformance.Proofs.Schema.Failures

/-!
# Conformance.Proofs.Schema.Growth

What an exploration adds to the findings it is handed, whatever they are: the
failures of the schema, as many of them as the cap still allows.

* `Findings.kept` — of further paths, those that fit under the cap.
* `Findings.Grows` — later findings are earlier ones with such paths behind them.
  Growing twice is growing once (`Grows.trans`), and findings that are full grow
  by anything without a change (`Grows.of_isFull`), so an early exit needs no
  argument of its own.
* `grows_explore` — the frame lemma, by induction on the schema.
-/

namespace Conformance

namespace Findings

variable {cap : Option Nat}

/-! ## What the cap lets through -/

/-- The paths of the mismatches found so far. -/
def paths (found : Findings) : List String := found.mismatches.toList.map (·.place.path)

/-- Of further paths, those that are kept when there are `count` already. -/
def kept (cap : Option Nat) (count : Nat) (paths : List String) : List String :=
  match cap with
  | none => paths
  | some n => paths.take (max n 1 - count)

theorem length_paths (found : Findings) : found.paths.length = found.mismatches.size := by
  rw [paths, List.length_map, Array.length_toList]

theorem isFull_eq (found : Findings) :
    found.isFull cap = reaches found.paths.length cap := by
  rw [isFull, length_paths]

theorem kept_nil (cap : Option Nat) (count : Nat) : kept cap count [] = [] := by
  cases cap with
  | none => rfl
  | some n => exact List.take_nil

/-- At the cap nothing more is kept. -/
theorem kept_of_reaches {count : Nat} (h : reaches count cap = true) (paths : List String) :
    kept cap count paths = [] := by
  cases cap with
  | none => exact absurd h (by simp [reaches])
  | some n =>
      have hle : max n 1 ≤ count := by simpa [reaches] using h
      have hzero : max n 1 - count = 0 := by omega
      rw [kept, hzero, List.take_zero]

/-- Below the cap the next path is kept and counted. -/
theorem kept_cons {count : Nat} (h : reaches count cap = false) (path : String)
    (paths : List String) :
    kept cap count (path :: paths) = path :: kept cap (count + 1) paths := by
  cases cap with
  | none => rfl
  | some n =>
      have hlt : ¬ max n 1 ≤ count := by simpa [reaches] using h
      have hsucc : max n 1 - count = (max n 1 - (count + 1)) + 1 := by omega
      rw [kept, hsucc, List.take_succ_cons, kept]

/-- Paths that come later have the room that the earlier ones leave. -/
theorem kept_append (cap : Option Nat) (count : Nat) (xs ys : List String) :
    kept cap count (xs ++ ys) =
      kept cap count xs ++ kept cap (count + (kept cap count xs).length) ys := by
  cases cap with
  | none => rfl
  | some n =>
      simp only [kept]
      rw [List.take_append, List.length_take]
      -- Either all of `xs` fits, or there is no room behind it on both sides.
      by_cases hfits : xs.length ≤ max n 1 - count
      · have hroom : max n 1 - count - xs.length =
            max n 1 - (count + min (max n 1 - count) xs.length) := by omega
        rw [hroom]
      · have hleft : max n 1 - count - xs.length = 0 := by omega
        have hright : max n 1 - (count + min (max n 1 - count) xs.length) = 0 := by omega
        rw [hleft, hright]

/-! ## Growing -/

/-- The later findings are the earlier ones followed by the paths, as far as the cap
allows. -/
def Grows (cap : Option Nat) (found later : Findings) (paths : List String) : Prop :=
  later.paths = found.paths ++ kept cap found.paths.length paths

namespace Grows

variable {found later last : Findings} {xs ys : List String}

theorem refl (cap : Option Nat) (found : Findings) : Grows cap found found [] := by
  rw [Grows, kept_nil, List.append_nil]

/-- To grow twice is to grow once, by both lists. -/
theorem trans (h₁ : Grows cap found later xs) (h₂ : Grows cap later last ys) :
    Grows cap found last (xs ++ ys) := by
  rw [Grows] at h₁ h₂ ⊢
  rw [h₂, h₁, List.length_append, kept_append, List.append_assoc]

/-- Full findings have grown by whatever was still to come. -/
theorem of_isFull (h : found.isFull cap = true) (paths : List String) :
    Grows cap found found paths := by
  rw [isFull_eq] at h
  rw [Grows, kept_of_reaches h, List.append_nil]

/-- A step that is taken below the cap only. -/
theorem unless_isFull (h : found.isFull cap = false → Grows cap found later xs) :
    Grows cap found (if found.isFull cap then found else later) xs := by
  cases hroom : found.isFull cap with
  | true => exact of_isFull hroom xs
  | false => exact h hroom

/-- Below the cap, findings stay as many as they are only if there is nothing to add. -/
theorem size_eq_iff (h : Grows cap found later xs) (hroom : found.isFull cap = false) :
    later.mismatches.size = found.mismatches.size ↔ xs = [] := by
  rw [isFull_eq] at hroom
  rw [Grows] at h
  rw [← length_paths, ← length_paths, h, List.length_append]
  cases xs with
  | nil => simp [kept_nil]
  | cons x xs => simp [kept_cons hroom]

end Grows

/-! ## One step -/

/-- A mismatch that is added is one more path, if there is room. -/
theorem grows_add (cap : Option Nat) (place : Place) (expected : Expectation) (value : Value)
    (found : Findings) : Grows cap found (found.add cap place expected value) [place.path] := by
  obtain ⟨mismatches, log⟩ := found
  have hlength : (Findings.mk mismatches log).paths.length = mismatches.size := length_paths _
  rw [Grows, hlength]
  cases hfull : reaches mismatches.size cap with
  | true =>
      rw [kept_of_reaches hfull, List.append_nil]
      simp only [add, hfull, if_true, paths]
  | false =>
      rw [kept_cons hfull, kept_nil]
      simp only [add, hfull, Bool.false_eq_true, if_false, paths, Array.toList_push,
        List.map_append, List.map_cons, List.map_nil]

theorem grows_addUnless (isMet : Bool) (cap : Option Nat) (place : Place)
    (expected : Expectation) (value : Value) (found : Findings) :
    Grows cap found (found.addUnless isMet cap place expected value)
      (failureUnless isMet place.path) := by
  cases isMet with
  | true => exact Grows.refl cap found
  | false => exact grows_add cap place expected value found

theorem paths_note (events : List Event) (found : Findings) :
    (found.note events).paths = found.paths := rfl

/-- What a predicate reports leaves the room as it is. -/
theorem Grows.of_note (events : List Event) {found later : Findings} {xs : List String}
    (h : Grows cap (found.note events) later xs) : Grows cap found later xs := by
  rw [Grows, paths_note] at h
  exact h

/-! ## Items -/

/-- A loop over items grows the findings by what its rounds grow them by. -/
theorem grows_foldl {α : Type} {step : Findings → α → Findings} {added : α → List String}
    (h : ∀ a found, Grows cap found (step found a) (added a)) (as : List α)
    (found : Findings) : Grows cap found (as.foldl step found) (as.flatMap added) := by
  induction as generalizing found with
  | nil => exact Grows.refl cap found
  | cons a as ih =>
      rw [List.foldl_cons, List.flatMap_cons]
      exact (h a found).trans (ih (step found a))

/-- Items behind the last element are at positions without one. -/
theorem grows_addExcess {elements : List Failures} (place : Place) {index : Nat}
    (hindex : elements.length ≤ index) (items : List Value) (found : Findings) :
    Grows cap found (found.addExcess cap place index items)
      ((items.zipIdx index).flatMap (positionFailures elements place.path)) := by
  induction items generalizing index found with
  | nil => exact Grows.refl cap found
  | cons item items ih =>
      rw [addExcess, List.zipIdx_cons, List.flatMap_cons]
      refine Grows.trans ?_ (ih (Nat.le_succ_of_le hindex) _)
      have hnone : elements[index]? = none := List.getElem?_eq_none hindex
      simp only [positionFailures, hnone, ← path_item_eq]
      -- Full findings are left alone, whatever the item is.
      cases hfull : found.isFull cap with
      | true => exact Grows.of_isFull hfull _
      | false =>
          rw [Bool.false_or]
          exact grows_addUnless _ cap _ _ item found

end Findings

/-! ## Exploring -/

namespace Schema

open Findings

variable {cap : Option Nat}

/-- Exploring a schema adds its failures. -/
def GrowsByFailures (cap : Option Nat) (s : Schema) : Prop :=
  ∀ (value : Value) (place : Place) (found : Findings),
    Grows cap found (s.explore cap value place found) (s.failures value place.path)

/-- The items of a tuple, with the elements before the present position in `earlier`. -/
theorem grows_exploreTuple {elements : List Schema}
    (h : ∀ e ∈ elements, e.GrowsByFailures cap) (earlier : List Schema) (items : List Value)
    (place : Place) (found : Findings) :
    Grows cap found (exploreTuple cap elements items earlier.length place found)
      ((items.zipIdx earlier.length).flatMap
        (positionFailures ((earlier ++ elements).map failures) place.path)) := by
  induction elements generalizing earlier items found with
  | nil =>
      cases items with
      | nil => exact Grows.refl cap found
      | cons item items =>
          -- No elements are left, so the index is past all of them.
          rw [exploreTuple, List.append_nil]
          · exact grows_addExcess place (Nat.le_of_eq (List.length_map failures)) _ found
          · simp
  | cons e elements ih =>
      cases items with
      | nil => exact Grows.refl cap found
      | cons item items =>
          rw [exploreTuple, List.zipIdx_cons, List.flatMap_cons]
          rw [positionFailures_next, ← path_item_eq]
          refine Grows.trans (h e List.mem_cons_self item _ found) ?_
          have hrest := ih (fun e he => h e (List.mem_cons_of_mem _ he)) (earlier ++ [e]) items
            (e.explore cap item (place.item earlier.length) found)
          rw [List.length_append, List.length_singleton, List.append_assoc,
            List.singleton_append] at hrest
          exact hrest

/-- The declared properties of a value that can have some. -/
theorem grows_exploreFields {fields : List (String × Schema)}
    (h : ∀ f ∈ fields, f.2.GrowsByFailures cap) (value : Value) (place : Place)
    (found : Findings) :
    Grows cap found (exploreFields cap fields value place found)
      (fields.flatMap fun f =>
        f.2.failures (value.property f.1) (propertyPath place.path f.1)) := by
  induction fields generalizing found with
  | nil => exact Grows.refl cap found
  | cons f fields ih =>
      obtain ⟨key, s⟩ := f
      rw [exploreFields, List.flatMap_cons, ← path_property_eq]
      have hfirst := h (key, s) List.mem_cons_self
      exact (hfirst _ _ found).trans (ih (fun f hf => h f (List.mem_cons_of_mem _ hf)) _)

/-- The length of a tuple, after its items have been looked at and have added `inner`. -/
theorem grows_addLength {found later : Findings} {inner : List String}
    (hinner : Grows cap found later inner) (hroom : found.isFull cap = false) (place : Place)
    (arity : Nat) (items : List Value) :
    Grows cap found (later.addLength cap place arity items found.mismatches.size)
      (if inner.isEmpty then failureUnless (items.length == arity) place.path else inner) := by
  have hsize := hinner.size_eq_iff hroom
  rw [addLength]
  cases inner with
  | nil =>
      have hsame : (later.mismatches.size != found.mismatches.size) = false := by
        rw [bne_eq_false_iff_eq]
        exact hsize.2 rfl
      rw [hsame, Bool.false_or]
      exact hinner.trans (grows_addUnless _ cap place .tupleLength (.array items) later)
  | cons path inner =>
      have hmore : (later.mismatches.size != found.mismatches.size) = true := by
        rw [bne_iff_ne]
        exact fun h => List.cons_ne_nil path inner (hsize.1 h)
      rw [hmore, Bool.true_or]
      exact hinner

/-- The exploration of an array follows the rules of arrays. -/
theorem grows_explore_array {elements : List Schema}
    (h : ∀ e ∈ elements, e.GrowsByFailures cap) (items : List Value) (place : Place)
    (found : Findings) :
    Grows cap found ((array elements).explore cap (.array items) place found)
      (arrayFailures (elements.map failures) items place.path) := by
  match elements, h with
  | [], _ =>
      rw [explore]
      exact Grows.unless_isFull fun _ => Grows.refl cap found
  | [e], h =>
      rw [explore]
      refine Grows.unless_isFull fun _ => grows_foldl (fun item found => ?_) items.zipIdx found
      rw [← path_item_eq]
      exact h e List.mem_cons_self item.1 _ found
  | e₁ :: e₂ :: es, h =>
      have hinner := grows_exploreTuple h [] items place found
      rw [explore]
      · refine Grows.unless_isFull fun hroom => ?_
        have hlength := grows_addLength hinner hroom place (e₁ :: e₂ :: es).length items
        rw [← List.length_map failures] at hlength ⊢
        exact hlength
      · simp
      · simp

/-- **Frame lemma**: an exploration leaves the findings it is handed as they are and
adds the failures of the schema behind them, as far as the cap allows. -/
theorem grows_explore (cap : Option Nat) (s : Schema) (value : Value) (place : Place)
    (found : Findings) :
    Grows cap found (s.explore cap value place found) (s.failures value place.path) := by
  induction s using Schema.induction generalizing value place found with
  | string | number | boolean | ofClass c | literal l =>
      rw [explore, failures]
      exact Grows.unless_isFull fun _ => grows_addUnless _ cap place _ value found
  | predicate p =>
      rw [explore, failures]
      refine Grows.unless_isFull fun _ => Grows.of_note (p.check value).events ?_
      exact grows_addUnless _ cap place .predicate value _
  | array elements ih =>
      cases value with
      | array items =>
          rw [failures_array]
          exact grows_explore_array ih items place found
      | _ =>
          simp only [explore, failures]
          exact Grows.unless_isFull fun _ => grows_add cap place .array _ found
  | object fields ih =>
      rw [explore]
      refine Grows.unless_isFull fun _ => ?_
      cases hvalue : value.hasProperties with
      | true =>
          rw [failures_object _ _ _ hvalue]
          exact grows_exploreFields ih value place found
      | false =>
          rw [failures_object_of_no_properties _ _ _ hvalue]
          exact grows_add cap place .object value found

end Schema

end Conformance
