import Conformance.Schema.Exploration

/-!
# Conformance.Matcher.Basic

Matching values against schemas. A `Matcher` says what the value is called in
paths and how many mismatches are wanted at most. It answers with the paths of all
mismatches (`paths`), with the first of them (`firstPath?`), or with yes or no
(`accepts`).

`mismatches` and `search` give the same answers together with the events of the
exploration, and with more detail.
-/

namespace Conformance

/-- Settings of the matcher. -/
structure Matcher where
  /-- What the value itself is called in paths. -/
  root : String := "value"
  /-- How many mismatches are wanted at most. One always is. -/
  maxMismatches : Option Nat := none
  deriving DecidableEq, Repr

namespace Matcher

/-- The mismatches that were found, with all events. -/
def outcome (found : Findings) : Logged (List Mismatch) where
  result := found.mismatches.toList
  events := found.log.toList.map Findings.Entry.event

/-- The mismatches of a value, as many as are wanted, in order. -/
def mismatches (m : Matcher) (value : Value) (schema : Schema) (root : String) :
    Logged (List Mismatch) :=
  outcome (schema.findings m.maxMismatches value root)

/-- The first mismatch of a value, found without looking for others. -/
def search (m : Matcher) (value : Value) (schema : Schema) : Logged (Option Mismatch) := do
  return (← outcome (schema.findings (some 1) value m.root)).head?

/-- The paths of the mismatches, with the value itself called `root`. -/
def pathsFrom (m : Matcher) (value : Value) (schema : Schema) (root : String) : List String :=
  (m.mismatches value schema root).result.map (·.place.path)

/-- The paths of the mismatches. -/
def paths (m : Matcher) (value : Value) (schema : Schema) : List String :=
  m.pathsFrom value schema m.root

/-- The path of the first mismatch. -/
def firstPath? (m : Matcher) (value : Value) (schema : Schema) : Option String :=
  (m.search value schema).result.map (·.place.path)

/-- Whether a value conforms to a schema. -/
def accepts (m : Matcher) (value : Value) (schema : Schema) : Bool :=
  (m.search value schema).result.isNone

end Matcher

namespace Schema

/-- Whether a value conforms, with the events of the search. -/
def check (schema : Schema) (value : Value) : Logged Bool := do
  return (← ({} : Matcher).search value schema).isNone

/-- Whether a value conforms. -/
def accepts (schema : Schema) (value : Value) : Bool := (schema.check value).result

/-- The paths of all mismatches, with the value itself called `value`. -/
def paths (schema : Schema) (value : Value) : List String := ({} : Matcher).paths value schema

end Schema

end Conformance
