import Conformance.Schema.Basic

/-!
# Conformance.Schema.Typing

The type of the values that conform to a schema. Predicates have the type they
claim; all else is read off the schema itself.
-/

namespace Conformance.Schema

mutual

/-- The type of conforming values. -/
def valueType : Schema → ValueType
  | string => .string
  | number => .number
  | boolean => .boolean
  | array [] => .array .unknown
  | array [element] => .array element.valueType
  | array elements => .tuple (valueTypes elements)
  | object fields => .object (propertyTypes fields)
  | ofClass c => .ofClass c
  | predicate p => p.claimed
  | literal l => .literal l
termination_by structural s => s

def valueTypes : List Schema → List ValueType
  | [] => []
  | s :: ss => s.valueType :: valueTypes ss
termination_by structural ss => ss

/-- The properties in their groups, each in the order of declaration. -/
def propertyTypes : List (String × Schema) → PropertyTypes ValueType
  | [] => {}
  | (k, s) :: fields =>
    let rest := propertyTypes fields
    if s.isOptional then { rest with optional := (k, s.valueType) :: rest.optional }
    else { rest with required := (k, s.valueType) :: rest.required }
termination_by structural fields => fields

end

end Conformance.Schema
