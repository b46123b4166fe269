import Conformance.Binary64
import Conformance.Properties

/-!
# Conformance.Json.Basic

The JSON tree that values are written to and read from. Its integers are exact,
so that a whole number stays one on its way through the tree; every other number
is a finite binary64 number.
-/

namespace Conformance

/-- A number of the JSON tree: an integer of 64 bits, signed or not, or a finite
binary64 number. -/
inductive JsonNumber where
  | integer (n : Int) (inRange : -0x8000000000000000 ≤ n ∧ n < 0x10000000000000000)
  | float (x : Binary64) (finite : x.isFinite)
  deriving DecidableEq

/-- The binary64 number nearest to a JSON number. -/
def JsonNumber.toBinary64 : JsonNumber → Binary64
  | integer n _ => .ofInt n
  | float x _ => x

/-- A JSON tree. The properties of an object are in key order. -/
inductive Json where
  | null
  | bool (b : Bool)
  | number (n : JsonNumber)
  | string (s : String)
  | array (items : List Json)
  | object (properties : List (String × Json))

namespace Json

instance : Inhabited Json := ⟨null⟩

/-- The object with the given properties; of two with one key the later counts. -/
def ofProperties (pairs : List (String × Json)) : Json := object (Properties.ofList pairs)

/-- An integer as a JSON number, rounded if it does not fit. -/
def ofInt (n : Int) : Json :=
  if h : -0x8000000000000000 ≤ n ∧ n < 0x10000000000000000 then number (.integer n h)
  else if h : (Binary64.ofInt n).isFinite then number (.float (.ofInt n) h)
  else null

/-- A number as JSON: null unless it is finite. -/
def ofBinary64 (x : Binary64) : Json :=
  if h : x.isFinite then number (.float x h) else null

end Json

end Conformance
