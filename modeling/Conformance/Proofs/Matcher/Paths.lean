import Conformance.Matcher.Require
import Conformance.Proofs.Schema.Growth

/-!
# Conformance.Proofs.Matcher.Paths

The answers of a matcher in terms of `Schema.failures`.

* Without a cap, the paths of the mismatches are the failures of the schema.
* With a cap they are the first of these, at least one of them being wanted, and
  everything that stops at the first mismatch tells exactly the head of the list:
  `Matcher.firstPath?`, `Matcher.accepts` and `Matcher.require`.
* What the value is called stands in front of every path and shows nowhere else
  (`Matcher.paths_relative`).
-/

namespace Conformance

namespace Matcher

/-- The same matcher without a cap. -/
def uncapped (m : Matcher) : Matcher := { m with maxMismatches := none }

/-- Of all mismatches, those a matcher reports. One is always wanted. -/
def wanted (m : Matcher) (paths : List String) : List String :=
  match m.maxMismatches with
  | none => paths
  | some n => paths.take (max n 1)

/-! ## Answers as failures -/

/-- A run leaves as many failures as it has room for, from the first on. -/
theorem paths_findings (schema : Schema) (cap : Option Nat) (value : Value) (root : String) :
    (schema.findings cap value root).paths =
      Findings.kept cap 0 (schema.failures value root) := by
  have hgrows := Schema.grows_explore cap schema value ⟨root, []⟩ {}
  rw [Findings.Grows, Place.path_root] at hgrows
  exact hgrows

/-- A matcher reports the wanted ones of all failures. -/
theorem pathsFrom_eq_wanted (m : Matcher) (value : Value) (schema : Schema) (root : String) :
    m.pathsFrom value schema root = m.wanted (schema.failures value root) := by
  have hpaths := paths_findings schema m.maxMismatches value root
  rw [Findings.paths] at hpaths
  rw [pathsFrom, mismatches, outcome, hpaths, wanted]
  cases m.maxMismatches <;> rfl

/-- A search ends with the first failure, since there is no room for a second one. -/
theorem firstPath?_eq_head? (m : Matcher) (value : Value) (schema : Schema) :
    m.firstPath? value schema = (schema.failures value m.root).head? := by
  have hpaths := paths_findings schema (some 1) value m.root
  have hfirst : m.firstPath? value schema =
      (schema.findings (some 1) value m.root).paths.head? := by
    rw [Findings.paths, List.head?_map]
    rfl
  rw [hfirst, hpaths]
  cases schema.failures value m.root <;> rfl

theorem accepts_eq_isNone (m : Matcher) (value : Value) (schema : Schema) :
    m.accepts value schema = (m.firstPath? value schema).isNone := by
  rw [accepts, firstPath?, Option.isNone_map]

/-- A refusal names the first mismatch. -/
theorem require_eq_match (m : Matcher) (value : Value) (schema : Schema) :
    m.require value schema = match m.firstPath? value schema with
      | none => .ok ()
      | some path => .error (.mismatch path) := by
  rw [require, requireLogged, firstPath?, Logged.result_bind]
  cases (m.search value schema).result <;> rfl

/-- One mismatch is wanted in any case, so the head of the list stays. -/
theorem head?_wanted (m : Matcher) (paths : List String) :
    (m.wanted paths).head? = paths.head? := by
  unfold wanted
  cases m.maxMismatches with
  | none => rfl
  | some n =>
      have hpos : max n 1 ≠ 0 := by omega
      rw [List.head?_take, if_neg hpos]

theorem head?_paths (m : Matcher) (value : Value) (schema : Schema) :
    (m.paths value schema).head? = m.firstPath? value schema := by
  rw [paths, pathsFrom_eq_wanted, head?_wanted, firstPath?_eq_head?]

/-! ## Main statements -/

/-- **Stateless mismatches**: without a cap, the exploration lists the failures of the
schema, whatever the value itself is called. -/
theorem pathsFrom_eq_failures (root : String) (value : Value) (schema : Schema)
    (path : String) :
    ({ root := root } : Matcher).pathsFrom value schema path = schema.failures value path :=
  pathsFrom_eq_wanted _ value schema path

/-- **Capped mismatches**: a capped list is a front of the full one, and the searches
that stop at the first mismatch agree with both. -/
theorem capped_agrees_with_full (m : Matcher) (value : Value) (schema : Schema) :
    (∀ path, m.pathsFrom value schema path =
      m.wanted (m.uncapped.pathsFrom value schema path)) ∧
    m.firstPath? value schema = (m.paths value schema).head? ∧
    m.firstPath? value schema = (m.uncapped.paths value schema).head? ∧
    (m.firstPath? value schema = none ↔
      m.paths value schema = [] ∧ m.uncapped.paths value schema = []) ∧
    (m.accepts value schema = true ↔ m.paths value schema = []) ∧
    m.require value schema = (match (m.paths value schema).head? with
      | none => .ok ()
      | some path => .error (.mismatch path)) := by
  have hhead : m.firstPath? value schema = (m.paths value schema).head? :=
    (head?_paths m value schema).symm
  have hfull : m.firstPath? value schema = (m.uncapped.paths value schema).head? := by
    rw [head?_paths m.uncapped, firstPath?_eq_head?, firstPath?_eq_head?]
    rfl
  refine ⟨fun path => ?_, hhead, hfull, ?_, ?_, ?_⟩
  · rw [pathsFrom_eq_wanted, pathsFrom_eq_wanted m.uncapped]
    rfl
  · rw [← List.head?_eq_none_iff, ← List.head?_eq_none_iff, ← hhead, ← hfull, and_self]
  · rw [accepts_eq_isNone, hhead, Option.isNone_iff_eq_none, List.head?_eq_none_iff]
  · rw [require_eq_match, hhead]

/-! ## Names of the value -/

/-- Which of the mismatches are wanted does not depend on what they are called. -/
theorem wanted_map (m : Matcher) (f : String → String) (paths : List String) :
    m.wanted (paths.map f) = (m.wanted paths).map f := by
  unfold wanted
  cases m.maxMismatches with
  | none => rfl
  | some n => exact List.map_take.symm

/-- A front of the name of the value is a front of every path. -/
theorem pathsFrom_append (m : Matcher) (value : Value) (schema : Schema) (front path : String) :
    m.pathsFrom value schema (front ++ path) =
      (m.pathsFrom value schema path).map (front ++ ·) := by
  rw [pathsFrom_eq_wanted, pathsFrom_eq_wanted, Schema.failures_append, wanted_map]

/-- The cap leaves room for as many paths, whatever they start with. -/
theorem paths_rename (m : Matcher) (value : Value) (schema : Schema) (root : String) :
    ({ m with root } : Matcher).paths value schema =
      (m.pathsFrom value schema "").map (root ++ ·) := by
  rw [← pathsFrom_append, String.append_empty]
  rfl

/-- The first mismatch is the same one under any root. -/
theorem firstPath?_rename (m : Matcher) (value : Value) (schema : Schema) (root : String) :
    ({ m with root } : Matcher).firstPath? value schema =
      (m.pathsFrom value schema "").head?.map (root ++ ·) := by
  rw [← head?_paths, paths_rename, List.head?_map]

/-- **Relative paths**: a front of the name of the value is a front of every path, under
any cap.  So what a matcher calls the value never decides whether it conforms, and another
name is another front of the same answers. -/
theorem paths_relative (m : Matcher) (value : Value) (schema : Schema) :
    (∀ front path, m.pathsFrom value schema (front ++ path) =
      (m.pathsFrom value schema path).map (front ++ ·)) ∧
    (∀ root, ({ m with root } : Matcher).accepts value schema = m.accepts value schema) ∧
    (∀ root, ({ m with root } : Matcher).paths value schema =
      (m.pathsFrom value schema "").map (root ++ ·)) ∧
    (∀ root, ({ m with root } : Matcher).firstPath? value schema =
      (m.pathsFrom value schema "").head?.map (root ++ ·)) ∧
    (∀ root, ({ m with root } : Matcher).require value schema =
      match (m.pathsFrom value schema "").head? with
      | none => .ok ()
      | some path => .error (.mismatch (root ++ path))) := by
  have hfirst := firstPath?_rename m value schema
  refine ⟨pathsFrom_append m value schema, fun root => ?_, paths_rename m value schema, hfirst,
    fun root => ?_⟩
  · have hown : m.firstPath? value schema =
        (m.pathsFrom value schema "").head?.map (m.root ++ ·) := hfirst m.root
    rw [accepts_eq_isNone, accepts_eq_isNone, hfirst, hown, Option.isNone_map,
      Option.isNone_map]
  · rw [require_eq_match, hfirst]
    cases (m.pathsFrom value schema "").head? <;> rfl

end Matcher

end Conformance
