import Conformance.Settings.Tree
import Conformance.Matcher.Basic
import Conformance.Toml.Quoting

/-!
# Conformance.Settings.Toml

The settings of the matcher as TOML text:

```
[matcher]
root = "payload"
max_mismatches = 20
```

Everything may be left out. `matcher` may also be an array of the two settings.
-/

namespace Conformance

/-- Why no settings could be loaded. -/
inductive ConfigFault where
  /-- The text is no TOML. -/
  | invalidText
  /-- A setting cannot be turned into the type it should have. -/
  | wrongType
  /-- The settings of the matcher are a single value. -/
  | notATable
  deriving DecidableEq, Repr

/-- Why settings could not be saved. -/
inductive SaveFault where
  /-- TOML integers have 64 bits with sign. -/
  | integerTooLarge
  deriving DecidableEq, Repr

namespace Matcher

/-- The settings of a matcher given one by one. -/
def ofSettings (root maxMismatches : Option Setting) : Except ConfigFault Matcher := do
  let root ← match root with
    | none => pure ({} : Matcher).root
    | some s => s.toText?.elim (throw .wrongType) pure
  let maxMismatches ← match maxMismatches with
    | none | some .absent => pure none
    | some s => s.toCount?.elim (throw .wrongType) (pure ∘ some)
  return { root, maxMismatches }

/-- The matcher that TOML text describes. -/
def ofToml (text : String) : Except ConfigFault Matcher :=
  match Toml.read? text with
  | none => throw .invalidText
  | some document =>
    match (Setting.ofDocument document).entries.lookup "matcher" with
    | none => return {}
    | some (.table entries) =>
      ofSettings (entries.lookup "root") (entries.lookup "max_mismatches")
    | some (.list items) => ofSettings items[0]? items[1]?
    | some _ => throw .notATable

/-- The settings of a matcher as TOML text. -/
def toToml (m : Matcher) : Except SaveFault String :=
  let root := "[matcher]\nroot = " ++ Toml.quote m.root ++ "\n"
  match m.maxMismatches with
  | none => return root
  | some n =>
    if n < 0x8000000000000000 then return root ++ "max_mismatches = " ++ toString n ++ "\n"
    else throw .integerTooLarge

end Matcher

end Conformance
