import Conformance.Decimal.Shortest

/-!
# Conformance.Decimal.Reading

Reading decimal texts as numbers, correctly rounded: the result is the number
nearest to the exact decimal, a tie going to the even significand.

A text is an optional sign followed by `inf`, `infinity` or `nan` in any case,
or by digits with at most one point among them and at least one digit in all,
and an optional exponent.
-/

namespace Conformance.Decimal

/-- The value of a run of decimal digits. -/
def natOfDigits (ds : List Char) : Nat :=
  ds.foldl (fun n c => 10 * n + (c.toNat - '0'.toNat)) 0

/-- The number of format `f` nearest to a decimal with the given sign. Decimals
far outside every format are decided by their size alone, so that a huge
exponent costs nothing. -/
def toBinary64 (f : BinaryFormat) (negative : Bool) (d : Decimal) : Binary64 :=
  let size := d.exponent + length d.digits
  if d.digits = 0 ∨ size < -400 then .ofRatio negative 0 1
  else if 400 < size then .infinity negative
  else
    let (m, e) := f.nearest (d.digits * Nat.pow 10 d.exponent.toNat) (Nat.pow 10 (-d.exponent).toNat)
    if f.maxExponent < e then .infinity negative
    else
      let (num, den) := binaryFraction m e
      .ofRatio negative num den

/-- A sign at the front of a text, and the rest. -/
def splitSign : List Char → Bool × List Char
  | '-' :: rest => (true, rest)
  | '+' :: rest => (false, rest)
  | rest => (false, rest)

/-- The exponent that ends a decimal text: nothing, or `e` and an integer. -/
def exponentOf? : List Char → Option Int
  | [] => some 0
  | c :: rest =>
    if c = 'e' ∨ c = 'E' then
      let (negative, ds) := splitSign rest
      if ds.isEmpty || !ds.all Char.isDigit then none
      else some (Binary64.signedInt negative (natOfDigits ds))
    else none

/-- An unsigned decimal: digits, a point among them, an exponent. -/
def ofChars? (cs : List Char) : Option Decimal :=
  let whole := cs.takeWhile Char.isDigit
  let (fraction, rest) := match cs.dropWhile Char.isDigit with
    | '.' :: rest => (rest.takeWhile Char.isDigit, rest.dropWhile Char.isDigit)
    | rest => ([], rest)
  if whole.isEmpty && fraction.isEmpty then none
  else (exponentOf? rest).map fun exponent =>
    ⟨natOfDigits (whole ++ fraction), exponent - fraction.length⟩

/-- The number of format `f` that a text denotes. -/
def read? (f : BinaryFormat) (text : String) : Option Binary64 :=
  let (negative, cs) := splitSign text.toList
  let word := String.ofList (cs.map Char.toLower)
  if word = "inf" ∨ word = "infinity" then some (.infinity negative)
  else if word = "nan" then some .nan
  else (ofChars? cs).map (toBinary64 f negative)

end Conformance.Decimal
