import Conformance.Text.Alphabetic
import Conformance.Text.Numeric

/-!
# Conformance.Text.Identifier

The property names that need no quotes in a rendered type: a letter, `_` or `$`
followed by letters, digits, `_` and `$`, in any script.
-/

namespace Conformance.Text

def isAlphabetic (c : Char) : Bool := alphabeticRanges.contains c.toNat

def isNumeric (c : Char) : Bool := numericRanges.contains c.toNat

/-- Whether an identifier can begin with the character. -/
def startsIdentifier (c : Char) : Bool := isAlphabetic c || c == '_' || c == '$'

/-- Whether an identifier can go on with the character. -/
def continuesIdentifier (c : Char) : Bool := startsIdentifier c || isNumeric c

def isIdentifier (s : String) : Bool :=
  match s.toList with
  | [] => false
  | c :: rest => startsIdentifier c && rest.all continuesIdentifier

end Conformance.Text
