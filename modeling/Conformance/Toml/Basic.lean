import Conformance.Binary64

/-!
# Conformance.Toml.Basic

The values of TOML documents. Dates and times are kept as their parts; their text
is the one way to write them that RFC 3339 prefers.
-/

namespace Conformance.Toml

/-! ## Dates and times -/

structure Date where
  year : Nat
  month : Nat
  day : Nat
  deriving DecidableEq, Repr

structure Time where
  hour : Nat
  minute : Nat
  second : Nat
  nanosecond : Nat
  deriving DecidableEq, Repr

/-- How a time relates to universal time: it is that time, or so many minutes
ahead of it. -/
inductive Offset where
  | zulu
  | minutes (n : Int)
  deriving DecidableEq, Repr

inductive DateTime where
  | date (d : Date)
  | time (t : Time)
  | full (d : Date) (t : Time) (offset : Option Offset)
  deriving DecidableEq, Repr

/-- The last digits of `n`, so many of them. -/
def padded (width n : Nat) : List Char :=
  (List.range width).reverse.map fun i => Nat.digitChar (n / Nat.pow 10 i % 10)

def Date.chars (d : Date) : List Char :=
  padded 4 d.year ++ '-' :: padded 2 d.month ++ '-' :: padded 2 d.day

def Time.chars (t : Time) : List Char :=
  let fraction := if t.nanosecond = 0 then [] else
    '.' :: ((padded 9 t.nanosecond).reverse.dropWhile (· == '0')).reverse
  padded 2 t.hour ++ ':' :: padded 2 t.minute ++ ':' :: padded 2 t.second ++ fraction

def Offset.chars : Offset → List Char
  | zulu => ['Z']
  | minutes n =>
    (if n < 0 then '-' else '+') :: (padded 2 (n.natAbs / 60) ++ ':' :: padded 2 (n.natAbs % 60))

/-- The text of a date, a time or both. -/
def DateTime.text : DateTime → String
  | date d => String.ofList d.chars
  | time t => String.ofList t.chars
  | full d t offset => String.ofList (d.chars ++ 'T' :: t.chars ++ (offset.map Offset.chars).getD [])

/-! ## Values -/

end Toml

/-- A value of a TOML document. Tables keep the order of the document. -/
inductive Toml where
  | string (s : String)
  | integer (n : Int)
  | float (x : Binary64)
  | bool (b : Bool)
  | dateTime (d : Toml.DateTime)
  | array (items : List Toml)
  | table (entries : List (String × Toml))

end Conformance
