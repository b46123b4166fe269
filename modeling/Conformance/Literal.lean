import Conformance.Decimal.Layout
import Conformance.Text.Quoted
import Conformance.Value.Basic

/-!
# Conformance.Literal

Exact values a schema or a type can ask for: the values without contents.
`Literal.accepts` is equality without any conversion, so `nan` matches nothing
and the two zeros match each other.
-/

namespace Conformance

/-- An exact value without contents. -/
inductive Literal where
  | undefined
  | null
  | bool (b : Bool)
  | number (x : Binary64)
  | string (s : String)

namespace Literal

/-- Whether a value is this literal. -/
def accepts : Literal → Value → Bool
  | undefined, .undefined => true
  | null, .null => true
  | bool a, .bool b => a == b
  | number x, .number y => x == y
  | string s, .string t => s == t
  | _, _ => false

protected def beq : Literal → Literal → Bool
  | undefined, undefined => true
  | null, null => true
  | bool a, bool b => a == b
  | number x, number y => x == y
  | string s, string t => s == t
  | _, _ => false

instance : BEq Literal := ⟨Literal.beq⟩

/-- The literal that a value is, unless it has contents. -/
def ofValue? : Value → Option Literal
  | .undefined => some undefined
  | .null => some null
  | .bool b => some (bool b)
  | .number x => some (number x)
  | .string s => some (string s)
  | _ => none

/-- Numbers in types never have an exponent, and infinity is spelt out. -/
def numberLayout : Decimal.Layout where
  infinity := "Infinity"

/-- The text of a literal in a type. -/
def text : Literal → String
  | undefined => "undefined"
  | null => "null"
  | bool b => if b then "true" else "false"
  | number x => numberLayout.format x
  | string s => Text.quote s

end Literal

end Conformance
