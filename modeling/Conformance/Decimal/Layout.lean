import Conformance.Decimal.Shortest

/-!
# Conformance.Decimal.Layout

How a number becomes text once its digits are known. The digits are always the
shortest ones; a `Layout` records the decisions that differ from one output
format to the next, and the formats themselves are values of it, each beside
the type it writes.
-/

namespace Conformance.Decimal

/-- The decisions of a number format. -/
structure Layout where
  /-- Which of two equally near shortest decimals is written. -/
  tie : Tie := .up
  /-- Whether a leading digit of weight `10 ^ x` is written without exponent. -/
  positional : Int → Bool := fun _ => true
  /-- Whether `.0` follows a number without a fraction. -/
  pointZero : Bool := false
  /-- Whether a positive exponent has its sign written. -/
  plusSign : Bool := false
  /-- The text of the positive infinity. -/
  infinity : String := "inf"

/-- Digits only: no exponent ever, and no fraction unless there is one. -/
def Layout.plain : Layout := {}

/-- The digits of a natural number. -/
def digitChars (n : Nat) : List Char := Nat.toDigits 10 n

/-- A decimal without exponent. -/
def positionalChars (pointZero : Bool) (d : Decimal) : List Char :=
  let ds := digitChars d.digits
  if 0 ≤ d.exponent then
    ds ++ List.replicate d.exponent.toNat '0' ++ if pointZero then ['.', '0'] else []
  else
    let places := (-d.exponent).toNat
    if places < ds.length then
      ds.take (ds.length - places) ++ '.' :: ds.drop (ds.length - places)
    else
      '0' :: '.' :: (List.replicate (places - ds.length) '0' ++ ds)

/-- A decimal as one digit, the others after a point, and the exponent `x` of
the first. -/
def scientificChars (plusSign : Bool) (d : Decimal) (x : Int) : List Char :=
  let sign := if x < 0 then ['-'] else if plusSign then ['+'] else []
  let mantissa := match digitChars d.digits with
    | [] => []
    | [c] => [c]
    | c :: rest => c :: '.' :: rest
  mantissa ++ 'e' :: (sign ++ digitChars x.natAbs)

/-- The text of a number in the given format. -/
def Layout.format (layout : Layout) : Binary64 → String
  | .nan => "NaN"
  | .infinity negative => if negative then "-" ++ layout.infinity else layout.infinity
  | .finite negative m e _ =>
    let d := shortest layout.tie m e
    let leading := d.exponent + length d.digits - 1
    let magnitude :=
      if m = 0 || layout.positional leading then positionalChars layout.pointZero d
      else scientificChars layout.plusSign d leading
    String.ofList (if negative then '-' :: magnitude else magnitude)

end Conformance.Decimal
