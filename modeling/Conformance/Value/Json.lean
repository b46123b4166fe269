import Conformance.Json.Decoder
import Conformance.Value.Basic

/-!
# Conformance.Value.Json

Values as JSON trees, and JSON trees as values. Host objects have no JSON form;
everything else does: properties that are `undefined` are left out, `undefined`
elsewhere and numbers that are not finite become null, and whole numbers up to
`2 ^ 53` become integers.
-/

namespace Conformance

/-- A safe integer is within the bound on either side. -/
theorem Binary64.natAbs_le_of_toSafeInteger? {x : Binary64} {n : Int}
    (h : x.toSafeInteger? = some n) : n.natAbs ≤ maxSafeInteger := by
  simp only [toSafeInteger?, Option.filter_eq_some_iff] at h
  simpa using h.2

/-- A number as JSON: an integer if it is one that is safe, else a float, and
null when there is neither. -/
def Binary64.toJson (x : Binary64) : Json :=
  match h : x.toSafeInteger? with
  | some n => .number (.integer n (by
      have hn := natAbs_le_of_toSafeInteger? h
      simp only [maxSafeInteger] at hn
      omega))
  | none => .ofBinary64 x

namespace Value

mutual

/-- The JSON form of a value, or the class of the first host object in it. -/
def toJson : Value → Except Class Json
  | undefined | null => .ok .null
  | bool b => .ok (.bool b)
  | number x => .ok x.toJson
  | string s => .ok (.string s)
  | array items => (itemsToJson items).map .array
  | object properties => (propertiesToJson properties).map .object
  | host i => .error i.concrete
termination_by structural v => v

def itemsToJson : List Value → Except Class (List Json)
  | [] => .ok []
  | v :: vs => do
    let j ← v.toJson
    let js ← itemsToJson vs
    return j :: js
termination_by structural vs => vs

/-- Leaves out the properties that are `undefined`. -/
def propertiesToJson : List (String × Value) → Except Class (List (String × Json))
  | [] => .ok []
  | (k, v) :: ps =>
    if v.isUndefined then propertiesToJson ps
    else do
      let j ← v.toJson
      let js ← propertiesToJson ps
      return (k, j) :: js
termination_by structural ps => ps

end

mutual

/-- The value of a JSON tree. -/
def ofJson : Json → Value
  | .null => null
  | .bool b => bool b
  | .number n => number n.toBinary64
  | .string s => string s
  | .array items => array (itemsOfJson items)
  | .object properties => object (propertiesOfJson properties)
termination_by structural j => j

def itemsOfJson : List Json → List Value
  | [] => []
  | j :: js => ofJson j :: itemsOfJson js
termination_by structural js => js

def propertiesOfJson : List (String × Json) → List (String × Value)
  | [] => []
  | (k, j) :: ps => (k, ofJson j) :: propertiesOfJson ps
termination_by structural ps => ps

end

/-- Reads any JSON tree as the value it is. -/
def decoder : Decoder Value := fun j => .ok (ofJson j)

end Value

end Conformance
