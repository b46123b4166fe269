import Conformance.Decimal.Reading
import Conformance.Toml.Basic
import Conformance.Toml.Scan

/-!
# Conformance.Toml.Scalar

Numbers, booleans, dates and times. They are all made of letters, digits and a
few marks, and nothing that may follow a value is, so the whole run of such
characters is taken first and then understood.
-/

namespace Conformance.Toml

/-! ## Numbers -/

/-- The digits of a run in which single underscores may stand between digits. -/
def digitsOf? (isDigit : Char → Bool) : List Char → Option (List Char)
  | [] => none
  | [c] => if isDigit c then some [c] else none
  | c :: '_' :: rest => if isDigit c then (digitsOf? isDigit rest).map (c :: ·) else none
  | c :: rest => if isDigit c then (digitsOf? isDigit rest).map (c :: ·) else none

/-- The value of a digit in bases up to sixteen. -/
def digitValue (c : Char) : Nat :=
  if c.isDigit then c.toNat - '0'.toNat else c.toLower.toNat - 'a'.toNat + 10

/-- Whether an integer fits 64 bits with sign. -/
def fitsWord (n : Int) : Bool := -0x8000000000000000 ≤ n && n < 0x8000000000000000

/-- An integer of 64 bits with sign. -/
def integerOf? (n : Int) : Option Toml := if fitsWord n then some (.integer n) else none

/-- An integer in a base other than ten. -/
def basedInteger? (base : Nat) (cs : List Char) : Option Toml := do
  let isDigit (c : Char) : Bool :=
    (c.isDigit || ('a' ≤ c.toLower && c.toLower ≤ 'f')) && digitValue c < base
  let ds ← digitsOf? isDigit cs
  integerOf? (ds.foldl (fun n c => base * n + digitValue c) 0 : Nat)

/-- Whole decimal digits, with no zero in front of others. -/
def wholeDigits? (cs : List Char) : Option (List Char) :=
  match digitsOf? Char.isDigit cs with
  | some ('0' :: _ :: _) => none
  | ds? => ds?

def decimalInteger? (cs : List Char) : Option Toml := do
  let (negative, unsigned) := Decimal.splitSign cs
  let ds ← wholeDigits? unsigned
  integerOf? (Binary64.signedInt negative (Decimal.natOfDigits ds))

/-- Digits that a character introduces, or nothing. -/
def part? (isMark : Char → Bool) : List Char → Option (List Char)
  | [] => some []
  | c :: rest => if isMark c then (digitsOf? Char.isDigit rest).map (c :: ·) else none

/-- The exponent of a float, with a sign if it has one. -/
def exponentPart? : List Char → Option (List Char)
  | [] => some []
  | mark :: rest =>
    if mark = 'e' ∨ mark = 'E' then
      let (negative, unsigned) := Decimal.splitSign rest
      (digitsOf? Char.isDigit unsigned).map fun ds =>
        if negative then 'e' :: '-' :: ds else 'e' :: ds
    else none

/-- A float with a fraction or an exponent. It must not be too large. -/
def decimalFloat? (cs : List Char) : Option Toml := do
  let (negative, unsigned) := Decimal.splitSign cs
  let isWhole (c : Char) : Bool := c.isDigit || c = '_'
  let isFraction (c : Char) : Bool := isWhole c || c = '.'
  let whole ← wholeDigits? (unsigned.takeWhile isWhole)
  let rest := unsigned.dropWhile isWhole
  let fraction ← part? (· = '.') (rest.takeWhile isFraction)
  let exponent ← exponentPart? (rest.dropWhile isFraction)
  if fraction.isEmpty && exponent.isEmpty then none
  else
    let d ← Decimal.ofChars? (whole ++ fraction ++ exponent)
    let x := Decimal.toBinary64 .double negative d
    if x = .infinity false then none else some (.float x)

def specialFloat? (cs : List Char) : Option Toml :=
  let (negative, unsigned) := Decimal.splitSign cs
  if unsigned = ['i', 'n', 'f'] then some (.float (.infinity negative))
  else if unsigned = ['n', 'a', 'n'] then some (.float .nan)
  else none

def number? (cs : List Char) : Option Toml :=
  match cs with
  | '0' :: 'x' :: rest => basedInteger? 16 rest
  | '0' :: 'o' :: rest => basedInteger? 8 rest
  | '0' :: 'b' :: rest => basedInteger? 2 rest
  | cs => (decimalInteger? cs).or ((specialFloat? cs).or (decimalFloat? cs))

/-! ## Dates and times -/

/-- A number of exactly so many digits, within bounds. -/
def field? (least greatest : Nat) (cs : List Char) : Option Nat :=
  let n := Decimal.natOfDigits cs
  if cs.all Char.isDigit ∧ least ≤ n ∧ n ≤ greatest then some n else none

def daysInMonth (year month : Nat) : Nat :=
  let isLeap := year % 4 = 0 ∧ (year % 100 ≠ 0 ∨ year % 400 = 0)
  match month with
  | 2 => if isLeap then 29 else 28
  | 4 | 6 | 9 | 11 => 30
  | _ => 31

/-- A date at the front, and the rest. -/
def date? : List Char → Option (Date × List Char)
  | y₁ :: y₂ :: y₃ :: y₄ :: '-' :: m₁ :: m₂ :: '-' :: d₁ :: d₂ :: rest => do
    let year ← field? 0 9999 [y₁, y₂, y₃, y₄]
    let month ← field? 1 12 [m₁, m₂]
    let day ← field? 1 (daysInMonth year month) [d₁, d₂]
    return (⟨year, month, day⟩, rest)
  | _ => none

/-- The greatest numbers that may stand for hours, and for hours and minutes of an
offset. -/
structure ClockLimits where
  hour : Nat
  offsetHour : Nat
  offsetMinute : Nat

/-- The limits for dates that are values of their own. -/
def ClockLimits.bare : ClockLimits := ⟨23, 23, 59⟩

/-- The limits for dates in strings. A day may end with its hour 24. -/
def ClockLimits.quoted : ClockLimits := ⟨24, 99, 99⟩

/-- A time of day at the front, and the rest. Of a fraction the first nine digits
count. -/
def time? (limits : ClockLimits) : List Char → Option (Time × List Char)
  | h₁ :: h₂ :: ':' :: m₁ :: m₂ :: ':' :: s₁ :: s₂ :: rest => do
    let hour ← field? 0 limits.hour [h₁, h₂]
    let minute ← field? 0 59 [m₁, m₂]
    let second ← field? 0 60 [s₁, s₂]
    match rest with
    | '.' :: rest =>
      let ds := rest.takeWhile Char.isDigit
      if ds.isEmpty then none
      else
        let nanosecond := Decimal.natOfDigits ((ds ++ List.replicate 9 '0').take 9)
        some (⟨hour, minute, second, nanosecond⟩, rest.dropWhile Char.isDigit)
    | rest => some (⟨hour, minute, second, 0⟩, rest)
  | _ => none

/-- The offset that a time may end in, a day at most. -/
def offset? (limits : ClockLimits) : List Char → Option (Option Offset)
  | [] => some none
  | ['Z'] | ['z'] => some (some .zulu)
  | [sign, h₁, h₂, ':', m₁, m₂] => do
    let hour ← field? 0 limits.offsetHour [h₁, h₂]
    let minute ← field? 0 limits.offsetMinute [m₁, m₂]
    let n := hour * 60 + minute
    if 24 * 60 < n then none
    else if sign = '+' then some (some (.minutes n))
    else if sign = '-' then some (some (.minutes (-(n : Int))))
    else none
  | _ => none

/-- The date, the time or both that a run of characters denotes. -/
def dateTime? (limits : ClockLimits) (cs : List Char) : Option DateTime :=
  match date? cs with
  | none => (time? limits cs).bind fun (t, rest) => if rest.isEmpty then some (.time t) else none
  | some (d, []) => some (.date d)
  | some (d, mark :: rest) =>
    if mark = 'T' ∨ mark = 't' ∨ mark = ' ' then do
      let (t, rest) ← time? limits rest
      let offset ← offset? limits rest
      return .full d t offset
    else none

/-! ## Scalars -/

/-- Whether a character can belong to a scalar that is no string. -/
def isScalarChar (c : Char) : Bool :=
  c.isAlphanum || c = '+' || c = '-' || c = '_' || c = '.' || c = ':'

/-- The value of a run of scalar characters. -/
def scalar? (cs : List Char) : Option Toml :=
  if cs = ['t', 'r', 'u', 'e'] then some (.bool true)
  else if cs = ['f', 'a', 'l', 's', 'e'] then some (.bool false)
  else ((dateTime? .bare cs).map .dateTime).or (number? cs)

/-- Takes a scalar that is no string. A date may have its time after one space. -/
def scanScalar : Scan Toml := do
  let cs ← Scan.takeWhile isScalarChar
  let isDate := match date? cs with
    | some (_, []) => true
    | _ => false
  match isDate, ← get with
  | true, ' ' :: c :: _ =>
    if c.isDigit then
      Scan.expect ' '
      let time ← Scan.takeWhile isScalarChar
      liftM (scalar? (cs ++ ' ' :: time))
    else liftM (scalar? cs)
  | _, _ => liftM (scalar? cs)

end Conformance.Toml
