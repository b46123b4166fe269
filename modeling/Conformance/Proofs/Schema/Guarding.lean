import Conformance.Proofs.Schema.Congruence

/-!
# Conformance.Proofs.Schema.Guarding

Parts of a schema put behind `Predicate.conforming`, which accepts what they accept
and reports a mismatch as one.

* `Schema.guardAt` — a schema with some of its parts guarded in this way.
* `Schema.segments` — what an exploration comes to, one thing after the other: mismatches
  outside of these parts, and visits to them, each with the value found there.
* `Collapses` — two lists of paths put together from the same segments: where one has all
  paths of a visit, the other has the path of the place visited, or nothing if there was
  no mismatch.  The segments say which path is which, also where two places share a text.
* `Matcher.guardAt_transparent` — guarding changes neither the answer nor the values of
  the type, and collapses the mismatches of the visits.
-/

namespace Conformance

/-! ## Visits -/

/-- A value found at a place, and the schema it has to conform to there. -/
structure Visit where
  schema : Schema
  value : Value
  path : String

namespace Visit

/-- The paths of the mismatches of a visit. -/
def paths (visit : Visit) : List String :=
  ({} : Matcher).pathsFrom visit.value visit.schema visit.path

/-- The mismatches of a visit taken as one. -/
def collapsed (visit : Visit) : List String :=
  if visit.paths.isEmpty then [] else [visit.path]

/-- What a visit reports are the failures of its schema. -/
theorem paths_eq_failures (visit : Visit) :
    visit.paths = visit.schema.failures visit.value visit.path :=
  Matcher.pathsFrom_eq_wanted _ _ _ _

theorem isEmpty_collapsed (visit : Visit) : visit.collapsed.isEmpty = visit.paths.isEmpty := by
  unfold collapsed
  cases visit.paths.isEmpty <;> rfl

/-- A guard at the place of a visit reports what is left when the visit collapses. -/
theorem failures_conforming (visit : Visit) :
    (Schema.predicate (.conforming visit.schema)).failures visit.value visit.path =
      visit.collapsed := by
  rw [Schema.failures, Predicate.test_conforming, Schema.accepts_eq _ _ visit.path, collapsed,
    paths_eq_failures]
  rfl

end Visit

/-! ## Segments -/

/-- A piece of a list of mismatches: the path of one outside of the chosen parts, or a
visit to one of these parts with all its mismatches. -/
inductive Segment where
  | path (path : String)
  | visit (visit : Visit)

namespace Segment

/-- The paths of the mismatches of a segment. -/
def paths : Segment → List String
  | path p => [p]
  | visit v => v.paths

/-- The paths that are left when visits collapse. -/
def collapsed : Segment → List String
  | path p => [p]
  | visit v => v.collapsed

/-- Only a segment without mismatches collapses to nothing. -/
theorem isEmpty_collapsed (segment : Segment) :
    segment.collapsed.isEmpty = segment.paths.isEmpty := by
  cases segment with
  | path p => rfl
  | visit v => exact v.isEmpty_collapsed

end Segment

/-- The first list has the paths of all segments, one segment after the other, and the
second what is left of them when the visits collapse. -/
structure Collapses (segments : List Segment) (full guarded : List String) : Prop where
  full_eq : segments.flatMap Segment.paths = full
  guarded_eq : segments.flatMap Segment.collapsed = guarded

namespace Collapses

/-- Paths outside of the chosen parts stay as they are. -/
theorem refl (paths : List String) : Collapses (paths.map .path) paths paths where
  full_eq := by simp only [List.flatMap_map, Segment.paths, List.flatMap_singleton']
  guarded_eq := by simp only [List.flatMap_map, Segment.collapsed, List.flatMap_singleton']

theorem append {segments segments' : List Segment} {full full' guarded guarded' : List String}
    (h : Collapses segments full guarded) (h' : Collapses segments' full' guarded') :
    Collapses (segments ++ segments') (full ++ full') (guarded ++ guarded') where
  full_eq := by rw [List.flatMap_append, h.full_eq, h'.full_eq]
  guarded_eq := by rw [List.flatMap_append, h.guarded_eq, h'.guarded_eq]

/-- Parts whose visits collapse can be put together. -/
theorem flatMap {α : Type} {segments : α → List Segment} {full guarded : α → List String}
    {as : List α} (h : ∀ a ∈ as, Collapses (segments a) (full a) (guarded a)) :
    Collapses (as.flatMap segments) (as.flatMap full) (as.flatMap guarded) where
  full_eq := by
    rw [List.flatMap_assoc]
    exact List.flatMap_congr fun a ha => (h a ha).full_eq
  guarded_eq := by
    rw [List.flatMap_assoc]
    exact List.flatMap_congr fun a ha => (h a ha).guarded_eq

/-- Collapsing leaves no mismatches only where there are none. -/
theorem isEmpty_eq {segments : List Segment} {full guarded : List String}
    (h : Collapses segments full guarded) : full.isEmpty = guarded.isEmpty := by
  rw [← h.full_eq, ← h.guarded_eq, Bool.eq_iff_iff]
  simp only [List.isEmpty_iff, List.flatMap_eq_nil_iff]
  simp only [← List.isEmpty_iff, Segment.isEmpty_collapsed]

end Collapses

/-! ## Guarded schemas -/

/-- A choice of parts of a schema.  A part is given by its position, which is the indices
of the parts that lead there, the outermost first. -/
abbrev Positions := List Nat → Bool

/-- The chosen positions inside of the part with an index. -/
def Positions.inside (chosen : Positions) (index : Nat) : Positions :=
  fun position => chosen (index :: position)

/-- The segments of a schema's mismatches, the value being at the given path. -/
abbrev Segments := Value → String → List Segment

/-- The segments of one item of a tuple. -/
def positionSegments (elements : List Segments) (path : String) (item : Value × Nat) :
    List Segment :=
  match elements[item.2]? with
  | some element => element item.1 (itemPath path item.2)
  | none => (failureUnless item.1.isUndefined (itemPath path item.2)).map .path

/-- The segments of a tuple.  If the visits to its items find nothing, its length is looked
at as well. -/
def tupleSegments (elements : List Segments) (items : List Value) (path : String) :
    List Segment :=
  let inner := items.zipIdx.flatMap (positionSegments elements path)
  if (inner.flatMap Segment.paths).isEmpty then
    inner ++ (failureUnless (items.length == elements.length) path).map .path
  else inner

/-- The segments of an array: one element is for every item, and several make a tuple. -/
def arraySegments (elements : List Segments) (items : List Value) (path : String) :
    List Segment :=
  match elements with
  | [] => []
  | [element] => items.zipIdx.flatMap fun item => element item.1 (itemPath path item.2)
  | elements => tupleSegments elements items path

namespace Schema

mutual

/-- The schema with its chosen parts guarded.  What is inside of a guarded part is not
guarded again. -/
def guardAt (schema : Schema) (chosen : Positions) : Schema :=
  if chosen [] then predicate (.conforming schema)
  else match schema with
    | array elements => array (guardElements elements chosen 0)
    | object fields => object (guardFields fields chosen 0)
    | leaf => leaf
termination_by structural schema

def guardElements (elements : List Schema) (chosen : Positions) (index : Nat) : List Schema :=
  match elements with
  | [] => []
  | e :: es => e.guardAt (chosen.inside index) :: guardElements es chosen (index + 1)
termination_by structural elements

def guardFields (fields : List (String × Schema)) (chosen : Positions) (index : Nat) :
    List (String × Schema) :=
  match fields with
  | [] => []
  | (key, s) :: fields =>
    (key, s.guardAt (chosen.inside index)) :: guardFields fields chosen (index + 1)
termination_by structural fields

end

mutual

/-- What an exploration comes to, in its order.  A chosen part is visited as a whole. -/
def segments (schema : Schema) (chosen : Positions) (value : Value) (path : String) :
    List Segment :=
  if chosen [] then [.visit ⟨schema, value, path⟩]
  else match schema with
    | array elements => match value with
      | .array items => arraySegments (elementSegments elements chosen 0) items path
      | _ => [.path path]
    | object fields =>
      if value.hasProperties then
        (fieldSegments fields chosen 0).flatMap fun f =>
          f.2 (value.property f.1) (propertyPath path f.1)
      else [.path path]
    | leaf => (leaf.failures value path).map .path
termination_by structural schema

def elementSegments (elements : List Schema) (chosen : Positions) (index : Nat) :
    List Segments :=
  match elements with
  | [] => []
  | e :: es => e.segments (chosen.inside index) :: elementSegments es chosen (index + 1)
termination_by structural elements

def fieldSegments (fields : List (String × Schema)) (chosen : Positions) (index : Nat) :
    List (String × Segments) :=
  match fields with
  | [] => []
  | (key, s) :: fields =>
    (key, s.segments (chosen.inside index)) :: fieldSegments fields chosen (index + 1)
termination_by structural fields

end

/-- Each element is guarded at the positions inside of it. -/
theorem guardElements_eq_map (elements : List Schema) (chosen : Positions) (index : Nat) :
    guardElements elements chosen index =
      (elements.zipIdx index).map fun e => e.1.guardAt (chosen.inside e.2) := by
  induction elements generalizing index with
  | nil => rfl
  | cons e es ih => rw [guardElements, ih, List.zipIdx_cons, List.map_cons]

theorem guardFields_eq_map (fields : List (String × Schema)) (chosen : Positions)
    (index : Nat) : guardFields fields chosen index =
      (fields.zipIdx index).map fun f => (f.1.1, f.1.2.guardAt (chosen.inside f.2)) := by
  induction fields generalizing index with
  | nil => rfl
  | cons f fields ih => rw [guardFields, ih, List.zipIdx_cons, List.map_cons]

theorem elementSegments_eq_map (elements : List Schema) (chosen : Positions) (index : Nat) :
    elementSegments elements chosen index =
      (elements.zipIdx index).map fun e => e.1.segments (chosen.inside e.2) := by
  induction elements generalizing index with
  | nil => rfl
  | cons e es ih => rw [elementSegments, ih, List.zipIdx_cons, List.map_cons]

theorem fieldSegments_eq_map (fields : List (String × Schema)) (chosen : Positions)
    (index : Nat) : fieldSegments fields chosen index =
      (fields.zipIdx index).map fun f => (f.1.1, f.1.2.segments (chosen.inside f.2)) := by
  induction fields generalizing index with
  | nil => rfl
  | cons f fields ih => rw [fieldSegments, ih, List.zipIdx_cons, List.map_cons]

/-- A chosen part is guarded as a whole. -/
theorem guardAt_of_chosen (s : Schema) {chosen : Positions} (h : chosen [] = true) :
    s.guardAt chosen = predicate (.conforming s) := by
  rw [guardAt.eq_def, if_pos h]

theorem guardAt_array (elements : List Schema) {chosen : Positions} (h : ¬chosen [] = true) :
    (array elements).guardAt chosen = array (guardElements elements chosen 0) := by
  rw [guardAt, if_neg h]

theorem guardAt_object (fields : List (String × Schema)) {chosen : Positions}
    (h : ¬chosen [] = true) :
    (object fields).guardAt chosen = object (guardFields fields chosen 0) := by
  rw [guardAt, if_neg h]

/-! ## Guarding keeps types -/

/-- A guard claims the type of what it guards. -/
theorem sameType_conforming (s : Schema) : SameType (predicate (.conforming s)) s :=
  fun _ => rfl

/-- A guard claims the type of what it guards, and an object type has the same values when
a property is no longer optional in it. -/
theorem sameType_guardAt (s : Schema) (chosen : Positions) : SameType (s.guardAt chosen) s := by
  induction s using Schema.induction generalizing chosen with
  | string | number | boolean | ofClass | predicate | literal =>
      intro value
      rw [guardAt.eq_def]
      split <;> rfl
  | array elements ih =>
      by_cases hchosen : chosen [] = true
      · rw [guardAt_of_chosen _ hchosen]
        exact sameType_conforming _
      · have helements (index : Nat) :
            List.Forall₂ SameType (guardElements elements chosen index) elements := by
          induction elements generalizing index with
          | nil => exact .nil
          | cons e es ihes =>
              obtain ⟨he, hes⟩ := List.forall_mem_cons.1 ih
              exact .cons (he _) (ihes hes _)
        rw [guardAt_array _ hchosen]
        exact sameType_array (helements 0)
  | object fields ih =>
      by_cases hchosen : chosen [] = true
      · rw [guardAt_of_chosen _ hchosen]
        exact sameType_conforming _
      · have hfields (index : Nat) : List.Forall₂ (fun f g => f.1 = g.1 ∧ SameType f.2 g.2)
            (guardFields fields chosen index) fields := by
          induction fields generalizing index with
          | nil => exact .nil
          | cons f fields ihfields =>
              obtain ⟨hf, hfields⟩ := List.forall_mem_cons.1 ih
              exact .cons ⟨rfl, hf _⟩ (ihfields hfields _)
        rw [guardAt_object _ hchosen]
        exact sameType_object (hfields 0)

end Schema

/-! ## Guarding collapses failures -/

/-- The parts of a schema with their segments, what they report themselves and what they
report when guarded, so that visits collapse. -/
def CollapsesEach {α : Type} (parts : List α) (segments : α → Segments)
    (full guarded : α → Failures) : Prop :=
  ∀ a ∈ parts, ∀ value path,
    Collapses (segments a value path) (full a value path) (guarded a value path)

namespace CollapsesEach

variable {α : Type} {parts : List α} {segments : α → Segments} {full guarded : α → Failures}

/-- Behind the last element there is nothing to collapse. -/
theorem position (h : CollapsesEach parts segments full guarded) (path : String)
    (item : Value × Nat) :
    Collapses (positionSegments (parts.map segments) path item)
      (positionFailures (parts.map full) path item)
      (positionFailures (parts.map guarded) path item) := by
  simp only [positionSegments, positionFailures, List.getElem?_map]
  cases hpart : parts[item.2]? with
  | none => exact .refl _
  | some a => exact h a (List.mem_of_getElem? hpart) _ _

/-- Both tuples look at their length or none does, since collapsing leaves no failures only
where there are none. -/
theorem tuple (h : CollapsesEach parts segments full guarded) (items : List Value)
    (path : String) :
    Collapses (tupleSegments (parts.map segments) items path)
      (tupleFailures (parts.map full) items path)
      (tupleFailures (parts.map guarded) items path) := by
  have hinner := Collapses.flatMap fun item (_ : item ∈ items.zipIdx) => h.position path item
  simp only [tupleSegments, tupleFailures, List.length_map, hinner.full_eq,
    ← hinner.isEmpty_eq]
  split
  case isTrue hempty =>
    have hguarded := hinner.isEmpty_eq.symm.trans hempty
    rw [List.isEmpty_iff.1 hempty, List.isEmpty_iff.1 hguarded] at hinner
    exact hinner.append (.refl (failureUnless (items.length == parts.length) path))
  case isFalse => exact hinner

/-- Visits to items collapse under each of the rules for arrays. -/
theorem array (h : CollapsesEach parts segments full guarded) (items : List Value)
    (path : String) :
    Collapses (arraySegments (parts.map segments) items path)
      (arrayFailures (parts.map full) items path)
      (arrayFailures (parts.map guarded) items path) := by
  match parts, h with
  | [], _ => exact .refl []
  | [a], h => exact .flatMap fun item _ => h a List.mem_cons_self _ _
  | a :: b :: parts, h => exact h.tuple items path

end CollapsesEach

namespace Schema

/-- A chosen part is one visit, and its guard reports it as one. -/
theorem collapses_of_chosen (s : Schema) {chosen : Positions} (h : chosen [] = true)
    (value : Value) (path : String) :
    Collapses (s.segments chosen value path) (s.failures value path)
      ((s.guardAt chosen).failures value path) := by
  rw [segments.eq_def, if_pos h, guardAt_of_chosen s h]
  refine ⟨?_, ?_⟩
  · rw [List.flatMap_singleton, Segment.paths, Visit.paths_eq_failures]
  · rw [List.flatMap_singleton, Segment.collapsed, ← Visit.failures_conforming]

/-- Guarding collapses the failures in the visits, by induction on the schema: a chosen part
is visited itself, and the parts of any other collapse one by one. -/
theorem collapses_guardAt (s : Schema) (chosen : Positions) (value : Value) (path : String) :
    Collapses (s.segments chosen value path) (s.failures value path)
      ((s.guardAt chosen).failures value path) := by
  induction s using Schema.induction generalizing chosen value path with
  | string | number | boolean | ofClass | predicate | literal =>
      by_cases hchosen : chosen [] = true
      · exact collapses_of_chosen _ hchosen value path
      · rw [segments.eq_def, guardAt.eq_def, if_neg hchosen, if_neg hchosen]
        exact .refl _
  | array elements ih =>
      by_cases hchosen : chosen [] = true
      · exact collapses_of_chosen _ hchosen value path
      · rw [segments.eq_def, if_neg hchosen, guardAt_array _ hchosen]
        cases value with
        | array items =>
            have heach : CollapsesEach (elements.zipIdx 0)
                (fun e => e.1.segments (chosen.inside e.2)) (fun e => e.1.failures)
                (fun e => (e.1.guardAt (chosen.inside e.2)).failures) :=
              fun e he => ih e.1 (List.fst_mem_of_mem_zipIdx he) (chosen.inside e.2)
            have harray := heach.array items path
            rw [map_fst_zipIdx] at harray
            rw [failures_array, failures_array, guardElements_eq_map, List.map_map]
            simp only [elementSegments_eq_map]
            exact harray
        | _ => exact .refl [path]
  | object fields ih =>
      by_cases hchosen : chosen [] = true
      · exact collapses_of_chosen _ hchosen value path
      · rw [segments.eq_def, if_neg hchosen, guardAt_object _ hchosen]
        cases hvalue : value.hasProperties with
        | true =>
            rw [failures_object _ _ _ hvalue, failures_object _ _ _ hvalue, guardFields_eq_map,
              List.flatMap_map, ← flatMap_fst_zipIdx _ fields 0]
            simp only [fieldSegments_eq_map, List.flatMap_map]
            exact .flatMap fun f hf => ih f.1 (List.fst_mem_of_mem_zipIdx hf) _ _ _
        | false =>
            rw [failures_object_of_no_properties _ _ _ hvalue,
              failures_object_of_no_properties _ _ _ hvalue]
            exact .refl [path]

end Schema

/-! ## Guarded mismatches -/

namespace Matcher

/-- **Guarding is transparent**: whichever parts of a schema are guarded, the same values
conform to it, its type has the same values, whatever its predicates claim, and without
a cap the mismatches are the same but for the visits to these parts, each of which
has become one. -/
theorem guardAt_transparent (schema : Schema) (chosen : Positions) (value : Value) :
    (∀ m : Matcher, m.accepts value (schema.guardAt chosen) = m.accepts value schema) ∧
    (schema.guardAt chosen).valueType.includes value = schema.valueType.includes value ∧
    ∀ (m : Matcher) (root : String), Collapses (schema.segments chosen value root)
      (m.uncapped.pathsFrom value schema root)
      (m.uncapped.pathsFrom value (schema.guardAt chosen) root) := by
  have hcollapses := schema.collapses_guardAt chosen value
  refine ⟨fun m => ?_, schema.sameType_guardAt chosen value, fun m root => ?_⟩
  · rw [accepts_eq m value _ "", accepts_eq m value schema "", (hcollapses "").isEmpty_eq]
  · rw [pathsFrom_eq_wanted, pathsFrom_eq_wanted]
    exact hcollapses root

/-- A guarded part has one mismatch where it had two.  The mismatch of another place stays,
although its path reads like that of one of them. -/
example :
    let point : Schema := .object [("x", .number), ("y", .number)]
    let shape : Schema := .object [("center", point), ("center.x", .string)]
    let value : Value := .object [("center", .object []), ("center.x", .null)]
    shape.paths value = ["value.center.x", "value.center.y", "value.center.x"] ∧
      (shape.guardAt (· == [0])).paths value = ["value.center", "value.center.x"] := by
  decide

end Matcher

end Conformance
