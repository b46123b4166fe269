import Conformance.Matcher.Basic
import Conformance.Schema.Typing

/-!
# Conformance.Schema.Derived

Schemas made of schemas. Each of them is a predicate that claims a type made of
the types of its parts. It explores values on its own account: places are named
from `value`, and the first mismatch ends the exploration.
-/

namespace Conformance.Predicate

/-- Accepts what any of the schemas accepts, trying them in order. Without
schemas it accepts nothing. -/
def anyOf (schemas : List Schema) : Predicate where
  check value := schemas.anyM fun schema => schema.check value
  claimed := .anyOf (schemas.map Schema.valueType)

/-- Accepts `undefined` as well, and lets a property be missing from the object
type. -/
def orUndefined (schema : Schema) : Predicate :=
  { anyOf [schema, .undefined] with isOptional := true }

/-- Accepts objects whose keys, as strings, conform to `key` and whose contents
conform to `content`. The first property that does not decides. -/
def dictionary (key content : Schema) : Predicate where
  check
    | .object properties => properties.allM fun p => do
      if ← key.check (.string p.1) then content.check p.2 else return false
    | _ => return false
  claimed := .dictionary key.valueType content.valueType

/-- Accepts what the schema accepts. -/
def conforming (schema : Schema) : Predicate where
  check value := schema.check value
  claimed := schema.valueType

/-- Accepts everything. -/
def anything : Predicate := ofTest fun _ => true

end Conformance.Predicate
