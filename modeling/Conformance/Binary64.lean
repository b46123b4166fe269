/-!
# Conformance.Binary64

The numbers of the value model: IEEE 754 binary64, held as a sign, a
significand and an exponent instead of a machine word, so that every question
about a number is a question about integers.

- A finite number is `± significand * 2 ^ exponent` in its one canonical form;
  the form is a proof field, so two finite numbers of one sign are the same
  number exactly when their fields agree.
- `Binary64.ofRatio` rounds any fraction to the nearest number, a tie to the
  even significand. Integers, products, quotients and decimals all round
  through it.
- `==` is the IEEE comparison: `nan` differs from itself and the two zeros are
  equal. The decidable equality of the type tells both apart.
-/

namespace Conformance

/-! ## Binary formats -/

/-- The significands and exponents a binary floating-point format can hold. -/
structure BinaryFormat where
  /-- Bits of a full significand. -/
  precision : Nat
  /-- Exponent of the smallest positive number. -/
  minExponent : Int
  /-- Exponent of the largest finite numbers. -/
  maxExponent : Int

namespace BinaryFormat

def single : BinaryFormat := ⟨24, -149, 104⟩

def double : BinaryFormat := ⟨53, -1074, 971⟩

/-- The one way to write a number of the format: the significand is full unless
the exponent is already the least. -/
def Canonical (f : BinaryFormat) (significand : Nat) (exponent : Int) : Prop :=
  significand < Nat.pow 2 f.precision ∧ f.minExponent ≤ exponent ∧ exponent ≤ f.maxExponent ∧
    (Nat.pow 2 (f.precision - 1) ≤ significand ∨ exponent = f.minExponent)

instance (f : BinaryFormat) (m : Nat) (e : Int) : Decidable (f.Canonical m e) :=
  inferInstanceAs (Decidable (_ ∧ _ ∧ _ ∧ _))

end BinaryFormat

/-! ## Rounding quotients -/

/-- The integer nearest to `num / den`, of two equally near the even one. -/
def roundDiv (num den : Nat) : Nat :=
  let q := num / den
  let r := num % den
  if 2 * r < den ∨ (2 * r = den ∧ q % 2 = 0) then q else q + 1

/-- The greatest `k` with `2 ^ k ≤ num / den`, for positive `num` and `den`. -/
def floorLog2Div (num den : Nat) : Int :=
  let k : Int := (num.log2 : Int) - den.log2
  if den * Nat.pow 2 k.toNat ≤ num * Nat.pow 2 (-k).toNat then k else k - 1

/-- The fraction `significand * 2 ^ exponent` as numerator and denominator. -/
def binaryFraction (significand : Nat) (exponent : Int) : Nat × Nat :=
  (significand * Nat.pow 2 exponent.toNat, Nat.pow 2 (-exponent).toNat)

/-- The significand and exponent nearest to `num / den` in format `f`, a tie to
the even significand. The exponent may exceed the greatest of the format: that
is overflow, which the caller decides about. -/
def BinaryFormat.nearest (f : BinaryFormat) (num den : Nat) : Nat × Int :=
  if num = 0 then (0, f.minExponent)
  else
    let e := max f.minExponent (floorLog2Div num den - (f.precision - 1 : Nat))
    let m := roundDiv (num * Nat.pow 2 (-e).toNat) (den * Nat.pow 2 e.toNat)
    -- Rounding up may fill the significand to the next power of two.
    if m = Nat.pow 2 f.precision then (Nat.pow 2 (f.precision - 1), e + 1) else (m, e)

/-! ## Numbers -/

/-- A binary64 number. -/
inductive Binary64 where
  | nan
  | infinity (negative : Bool)
  | finite (negative : Bool) (significand : Nat) (exponent : Int)
      (canonical : BinaryFormat.double.Canonical significand exponent)
  deriving DecidableEq

namespace Binary64

/-- A number from its parts; parts beyond the largest finite number overflow. -/
def ofParts (negative : Bool) (significand : Nat) (exponent : Int) : Binary64 :=
  if h : BinaryFormat.double.Canonical significand exponent then
    .finite negative significand exponent h
  else
    .infinity negative

/-- The number nearest to `num / den`, with the given sign. -/
def ofRatio (negative : Bool) (num den : Nat) : Binary64 :=
  let parts := BinaryFormat.double.nearest num den
  ofParts negative parts.1 parts.2

/-- The number nearest to an integer. Zero is the positive zero. -/
def ofInt (n : Int) : Binary64 := ofRatio (n < 0) n.natAbs 1

/-- The number nearest to a natural number. -/
def ofNat (n : Nat) : Binary64 := ofRatio false n 1

instance : OfNat Binary64 n := ⟨ofNat n⟩

instance : Inhabited Binary64 := ⟨0⟩

protected def neg : Binary64 → Binary64
  | nan => nan
  | infinity s => infinity (!s)
  | finite s m e h => finite (!s) m e h

instance : Neg Binary64 := ⟨Binary64.neg⟩

/-! ## Comparison -/

/-- IEEE equality: `nan` equals nothing and the zeros equal each other. -/
protected def beq : Binary64 → Binary64 → Bool
  | infinity s, infinity t => s == t
  | finite s m e _, finite t n f _ => m == n && e == f && (s == t || m == 0)
  | _, _ => false

instance : BEq Binary64 := ⟨Binary64.beq⟩

theorem beq_def (x y : Binary64) : (x == y) = Binary64.beq x y := rfl

theorem beq_comm (x y : Binary64) : (x == y) = (y == x) := by
  cases x <;> cases y <;> simp [beq_def, Binary64.beq] <;> grind

/-- Equality can be chained, as what is equal to something is no `nan`. -/
theorem beq_trans {x y z : Binary64} (hxy : x == y) (hyz : y == z) : x == z := by
  cases x <;> cases y <;> cases z <;> simp_all [beq_def, Binary64.beq]
  grind

/-- Only `nan` differs from itself. -/
theorem beq_self_iff {x : Binary64} : (x == x) = true ↔ x ≠ nan := by
  cases x <;> simp [beq_def, Binary64.beq]

/-- Whether the number is neither infinite nor `nan`. -/
def isFinite : Binary64 → Bool
  | finite .. => true
  | _ => false

/-- Whether the number is greater than zero. -/
def isPositive : Binary64 → Bool
  | infinity s => !s
  | finite s m _ _ => !s && m != 0
  | nan => false

/-! ## Integers -/

/-- The integer with this sign and magnitude. -/
def signedInt (negative : Bool) (magnitude : Nat) : Int :=
  if negative then -(magnitude : Int) else magnitude

/-- The integer a number is equal to, if it is equal to one. -/
def toInt? : Binary64 → Option Int
  | finite s m e _ =>
    let (num, den) := binaryFraction m e
    if num % den = 0 then some (signedInt s (num / den)) else none
  | _ => none

/-- `2 ^ 53`: up to this magnitude every integer is a binary64 number. -/
def maxSafeInteger : Nat := 9007199254740992

/-- The integer a number is equal to, if it is one of magnitude at most `2 ^ 53`. -/
def toSafeInteger? (x : Binary64) : Option Int :=
  x.toInt?.filter fun n => n.natAbs ≤ maxSafeInteger

/-- Whether the number is an even integer. -/
def isEven (x : Binary64) : Bool :=
  x.toInt?.any fun n => n % 2 == 0

/-- The natural number nearest to `x`, a half away from zero, cut off at
`bound`. Negative numbers and `nan` give zero. -/
def toNatSaturating (bound : Nat) : Binary64 → Nat
  | nan => 0
  | infinity s => if s then 0 else bound
  | finite s m e _ =>
    let (num, den) := binaryFraction m e
    if s then 0 else min bound ((2 * num + den) / (2 * den))

/-! ## Products and quotients -/

protected def mul : Binary64 → Binary64 → Binary64
  | finite s m e _, finite t n f _ =>
    let (num, den) := binaryFraction (m * n) (e + f)
    ofRatio (s != t) num den
  | infinity s, finite t n _ _ => if n = 0 then nan else infinity (s != t)
  | finite s m _ _, infinity t => if m = 0 then nan else infinity (s != t)
  | infinity s, infinity t => infinity (s != t)
  | _, _ => nan

protected def div : Binary64 → Binary64 → Binary64
  | finite s m e _, finite t n f _ =>
    if n = 0 then
      if m = 0 then nan else infinity (s != t)
    else
      let (num, den) := binaryFraction m (e - f)
      ofRatio (s != t) num (den * n)
  | infinity s, finite t _ _ _ => infinity (s != t)
  | finite s _ _ _, infinity t => ofRatio (s != t) 0 1
  | _, _ => nan

instance : Mul Binary64 := ⟨Binary64.mul⟩

instance : Div Binary64 := ⟨Binary64.div⟩

end Binary64

end Conformance
