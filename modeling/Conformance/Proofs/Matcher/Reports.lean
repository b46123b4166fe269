import Conformance.Proofs.Matcher.Paths
import Conformance.Proofs.Schema.Reports

/-!
# Conformance.Proofs.Matcher.Reports

What a matcher reports on its own account, next to what it answers.

* `reportsExactly_findings` — an exploration reports the mismatches that it keeps.
* `events_requireLogged` — refusing a value adds one report to those of the search, and
  letting it pass adds none.
* `Matcher.reports_mismatches` — so reports and answers tell the same paths, whatever the
  cap is.
-/

namespace Conformance

/-- What an event says: how much it matters, what it is about, and at which path. -/
def Event.summary (e : Event) : Level × String × Option String :=
  (e.level, e.message, e.details.lookup "path")

/-- The findings come from adding mismatches below the cap only; the events are what was
logged on the way, and those of the exploration itself are one for each path. -/
structure Findings.ReportsExactly (cap : Option Nat) (events : List Event)
    (paths : List String) (found : Findings) : Prop where
  run : Findings.Run cap {} found
  events_eq : events = found.log.toList.map Entry.event
  summaries : found.reports.map Event.summary = paths.map fun path =>
    (.trace, "schema mismatch", some path)

namespace Matcher

/-! ## Explorations -/

theorem reports_findings (schema : Schema) (cap : Option Nat) (value : Value) (root : String) :
    (schema.findings cap value root).reports =
      (schema.findings cap value root).mismatches.toList.map .mismatch :=
  (Schema.run_explore cap schema value ⟨root, []⟩ {}).faithful Findings.faithful_empty

/-- Reports and paths of a run from an empty record agree one for one. -/
theorem reportsExactly_findings (schema : Schema) (cap : Option Nat) (value : Value)
    (root : String) :
    (schema.findings cap value root).ReportsExactly cap
      (outcome (schema.findings cap value root)).events
      (schema.findings cap value root).paths where
  run := Schema.run_explore cap schema value ⟨root, []⟩ {}
  events_eq := rfl
  summaries := by
    rw [reports_findings, Findings.paths, List.map_map, List.map_map]
    rfl

/-! ## Answers -/

/-- With room for one mismatch, the first one is all that is found. -/
theorem paths_findings_one (m : Matcher) (value : Value) (schema : Schema) :
    (schema.findings (some 1) value m.root).paths = (m.firstPath? value schema).toList := by
  rw [paths_findings, firstPath?_eq_head?]
  cases schema.failures value m.root <;> rfl

/-- A search reports what an exploration with room for one mismatch does. -/
theorem events_search (m : Matcher) (value : Value) (schema : Schema) :
    (m.search value schema).events = (outcome (schema.findings (some 1) value m.root)).events := by
  rw [search, Logged.events_bind, Logged.events_pure, List.append_nil]

/-- What refusing a value reports besides what the search for a mismatch does. -/
theorem events_requireLogged (m : Matcher) (value : Value) (schema : Schema) :
    (m.requireLogged value schema).events = (m.search value schema).events ++
      match (m.search value schema).result with
      | none => []
      | some first => [.rejected first.place value.kind] := by
  rw [requireLogged, Logged.events_bind]
  cases (m.search value schema).result <;> rfl

/-- **Reports and answers agree**: apart from what predicates report, an exploration reports
exactly the paths that are answered, in their order, since nothing is added to findings that
are full.  So a search for the first mismatch reports one at most, and refusing a value adds
one more report, of the path that is refused, which is missing if the value passes. -/
theorem reports_mismatches (m : Matcher) (value : Value) (schema : Schema) :
    (∀ root, (schema.findings m.maxMismatches value root).ReportsExactly m.maxMismatches
      (m.mismatches value schema root).events (m.pathsFrom value schema root)) ∧
    (schema.findings (some 1) value m.root).ReportsExactly (some 1)
      (m.search value schema).events (m.firstPath? value schema).toList ∧
    (schema.findings (some 1) value m.root).reports.length ≤ 1 ∧
    ∃ own, (m.requireLogged value schema).events = (m.search value schema).events ++ own ∧
      own.map Event.summary = match m.require value schema with
        | .ok () => []
        | .error refusal => [(.debug, "value rejected by schema", refusal.path?)] := by
  refine ⟨fun root => reportsExactly_findings schema m.maxMismatches value root, ?_, ?_, _,
    events_requireLogged m value schema, ?_⟩
  · rw [events_search, ← paths_findings_one]
    exact reportsExactly_findings schema (some 1) value m.root
  · rw [reports_findings, List.length_map, Array.length_toList, ← Findings.length_paths,
      paths_findings_one]
    cases m.firstPath? value schema <;> simp
  · rw [require_eq_match, firstPath?]
    cases (m.search value schema).result <;> rfl

end Matcher

end Conformance
