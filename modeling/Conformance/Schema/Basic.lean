import Conformance.Event
import Conformance.ValueType.Basic

/-!
# Conformance.Schema.Basic

Schemas: descriptions of the values a caller expects.

A schema is a plain value. Its predicates are functions of the caller's choice;
each carries the type it claims for the values it accepts, and a mark that makes
a property optional in the type of an object. Only the type of a schema depends on
the two.
-/

namespace Conformance

/-- A check of the caller's choice. It may report what it does. -/
structure Predicate where
  check : Value → Logged Bool
  /-- Whether a property with this schema may be missing from the object type. -/
  isOptional : Bool := false
  /-- The type claimed for the values that pass. -/
  claimed : ValueType := .unknown

namespace Predicate

/-- A check that reports nothing, with no type claimed. -/
def ofTest (test : Value → Bool) : Predicate where
  check value := pure (test value)

/-- Whether a value passes. -/
def test (p : Predicate) (value : Value) : Bool := (p.check value).result

/-- The same check with another type claimed. -/
def claiming (p : Predicate) (claimed : ValueType) : Predicate := { p with claimed }

end Predicate

/-- What is expected of a value. -/
inductive Schema where
  | string
  | number
  | boolean
  /-- Without elements any array; with one element arrays of it; with more a
  tuple, checked position by position. -/
  | array (elements : List Schema)
  /-- Values that can carry properties, and carry these. -/
  | object (fields : List (String × Schema))
  | ofClass (c : Class)
  | predicate (p : Predicate)
  | literal (l : Literal)

namespace Schema

instance : Inhabited Schema := ⟨string⟩

/-- Arrays of anything. -/
def anyArray : Schema := array []

/-- Arrays of one kind of item. -/
def arrayOf (element : Schema) : Schema := array [element]

def undefined : Schema := literal .undefined

def null : Schema := literal .null

/-- Whether a property with this schema may be missing from the object type. -/
def isOptional : Schema → Bool
  | predicate p => p.isOptional
  | _ => false

/-- The predicate that a schema is. -/
def predicate? : Schema → Option Predicate
  | predicate p => some p
  | _ => none

end Schema

end Conformance
