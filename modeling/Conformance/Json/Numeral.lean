import Conformance.Decimal.Reading
import Conformance.Json.Basic

/-!
# Conformance.Json.Numeral

Numbers as they stand in JSON texts.

- `NumberPart.next?` says which character may come next in a number.
- `numberOf?` says what a number denotes: an integer if it has neither fraction nor
  exponent and fits 64 bits, except that `-0` is the negative zero. Every other
  number is rounded twice, once for its digits and once for its power of ten, so
  the last bit may be off.
-/

namespace Conformance.Json

/-! ## Reading character by character -/

/-- How far a number has been read. -/
inductive NumberPart where
  | sign
  | zero
  | whole
  | point
  | fraction
  | exponentMark
  | exponentSign
  | exponent

namespace NumberPart

/-- The part that a further character leads to, if it can belong to the number. -/
def next? (part : NumberPart) (c : Char) : Option NumberPart :=
  let digit := c.isDigit
  let mark := c = 'e' || c = 'E'
  match part with
  | sign => if c = '0' then some zero else if digit then some whole else none
  | zero => if c = '.' then some point else if mark then some exponentMark else none
  | whole =>
    if digit then some whole else if c = '.' then some point
    else if mark then some exponentMark else none
  | point => if digit then some fraction else none
  | fraction => if digit then some fraction else if mark then some exponentMark else none
  | exponentMark =>
    if digit then some exponent else if c = '+' || c = '-' then some exponentSign else none
  | exponentSign => if digit then some exponent else none
  | exponent => if digit then some exponent else none

/-- Whether a number may end here. -/
def isComplete : NumberPart → Bool
  | zero | whole | fraction | exponent => true
  | _ => false

end NumberPart

/-! ## What a numeral denotes -/

/-- The digits of a decimal that fit an unsigned 64-bit integer together, those
before them given, and how many digits are left over. -/
def significandOf (start : Nat) : List Char → Nat × List Char
  | [] => (start, [])
  | c :: rest =>
    let next := 10 * start + (c.toNat - '0'.toNat)
    if next < 0x10000000000000000 then significandOf next rest else (start, c :: rest)

/-- `x` divided by `10 ^ k` in steps of at most `10 ^ 308`. -/
def scaleDown (x : Binary64) (k : Nat) : Binary64 :=
  if k ≤ 308 then x / .ofNat (Nat.pow 10 k)
  else if x == 0 then x
  else scaleDown (x / .ofNat (Nat.pow 10 308)) (k - 308)
termination_by k
decreasing_by omega

/-- A decimal number with fraction or exponent, or too long for an integer. Its
leading digits are taken as an integer of 64 bits and rounded, and the result is
scaled by a power of ten and rounded again. Digits beyond those count as zeros,
after the point as nothing. No result when it is too large. -/
def floatOf? (whole fraction : List Char) (exponent : Int) : Option Binary64 :=
  let (leading, dropped) := significandOf 0 whole
  let (significand, unread) := significandOf leading fraction
  let scale := dropped.length - (fraction.length - unread.length : Nat) + exponent
  let x := Binary64.ofNat significand
  if scale < 0 then some (scaleDown x scale.natAbs)
  else if x == 0 then some x
  else if 308 < scale then none
  else
    let y := x * .ofNat (Nat.pow 10 scale.toNat)
    if y.isFinite then some y else none

/-- The number that a complete numeral denotes, unless it is too large. -/
def numberOf? (cs : List Char) : Option Json :=
  let (negative, unsigned) := Decimal.splitSign cs
  let whole := unsigned.takeWhile Char.isDigit
  let rest := unsigned.dropWhile Char.isDigit
  let n := Binary64.signedInt negative (Decimal.natOfDigits whole)
  if h : rest = [] ∧ (n ≠ 0 ∨ !negative) ∧ -0x8000000000000000 ≤ n ∧ n < 0x10000000000000000 then
    some (number (.integer n h.2.2))
  else
    let (fraction, rest) := match rest with
      | '.' :: rest => (rest.takeWhile Char.isDigit, rest.dropWhile Char.isDigit)
      | rest => ([], rest)
    let exponent := (Decimal.exponentOf? rest).getD 0
    (floatOf? whole fraction exponent).map fun x => ofBinary64 (if negative then -x else x)

end Conformance.Json
