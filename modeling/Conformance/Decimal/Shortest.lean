import Conformance.Binary64

/-!
# Conformance.Decimal.Shortest

The shortest decimal that reads back as a given finite number.

The reals that round to `m * 2 ^ e` form an interval around it: half a step on
either side, a quarter step below when `m` is the least full significand, and
with its ends exactly when `m` is even. On the grid of decimals with `n`
significant digits only the two neighbours of the number have to be tried; the
first grid with a neighbour in the interval, from one digit upwards, has the
shortest decimals, and the nearer neighbour is taken. Seventeen digits always
suffice. Everything is compared in natural numbers, in units that make both the
decimal step and a quarter of the binary step whole.
-/

namespace Conformance

/-- `digits * 10 ^ exponent`. -/
structure Decimal where
  digits : Nat
  exponent : Int
  deriving DecidableEq, Repr

namespace Decimal

/-- Which of two equally near decimals is taken. -/
inductive Tie where
  | even
  | up

/-- Number of decimal digits of a natural number; zero has one. -/
def length (n : Nat) : Nat := (Nat.toDigits 10 n).length

/-- The greatest `k` with `10 ^ k ≤ num / den`, for positive `num` and `den`. -/
def floorLog10Div (num den : Nat) : Int :=
  if den ≤ num then (length (num / den) : Int) - 1 else -(length ((den - 1) / num) : Int)

/-- Sizes of a decimal and a quarter binary step in one common unit. -/
structure Steps where
  decimal : Nat
  quarter : Nat

/-- The steps of the grid `10 ^ k` and of numbers with binary exponent `e`. -/
def Steps.of (e k : Int) : Steps where
  decimal := Nat.pow 10 k.toNat * Nat.pow 2 (2 - e).toNat
  quarter := Nat.pow 2 (e - 2).toNat * Nat.pow 10 (-k).toNat

/-- Whether `x`, counted in units of `steps`, rounds to `m * 2 ^ e`. -/
def roundsTo (m : Nat) (e : Int) (steps : Steps) (x : Nat) : Bool :=
  -- Below a power of two the steps are half as wide.
  let narrow := m = Nat.pow 2 52 ∧ e ≠ BinaryFormat.double.minExponent
  let below := if narrow then 4 * m - 1 else 4 * m - 2
  let least := below * steps.quarter
  let greatest := (4 * m + 2) * steps.quarter
  if m % 2 = 0 then least ≤ x && x ≤ greatest else least < x && x < greatest

/-- The multiple of `10 ^ k` that reads back as `m * 2 ^ e` and is nearest to it,
if one of its two neighbours reads back. -/
def onGrid? (tie : Tie) (m : Nat) (e k : Int) : Option Nat :=
  let steps := Steps.of e k
  let x := 4 * m * steps.quarter
  let c := x / steps.decimal
  let below := roundsTo m e steps (c * steps.decimal)
  let above := roundsTo m e steps ((c + 1) * steps.decimal)
  if below && above then
    let gap := x - c * steps.decimal
    if 2 * gap < steps.decimal then some c
    else if steps.decimal < 2 * gap then some (c + 1)
    else match tie with
      | .up => some (c + 1)
      | .even => some (if c % 2 = 0 then c else c + 1)
  else if below then some c
  else if above then some (c + 1)
  else none

/-- The same decimal with no zero at the end of its digits. -/
def trim (d : Decimal) : Decimal :=
  if h : d.digits ≠ 0 ∧ d.digits % 10 = 0 then
    trim ⟨d.digits / 10, d.exponent + 1⟩
  else d
termination_by d.digits
decreasing_by exact Nat.div_lt_self (Nat.pos_of_ne_zero h.1) (by decide)

/-- The shortest decimal that reads back as `m * 2 ^ e`, without zeros at the
end. Zero is written with the digit zero. -/
def shortest (tie : Tie) (m : Nat) (e : Int) : Decimal :=
  if m = 0 then ⟨0, 0⟩
  else
    let (num, den) := binaryFraction m e
    let leading := floorLog10Div num den
    let grids : List Int := (List.range 17).map fun (n : Nat) => leading - n
    match grids.findSome? fun k => (onGrid? tie m e k).map (Decimal.mk · k) with
    | some d => d.trim
    | none => ⟨0, 0⟩

end Decimal

end Conformance
