import Conformance.Json.Printer
import Conformance.Text.Quoted

/-!
# Conformance.Json.Decoder

Decoding JSON trees into the types of a caller. A `Decoder` is a function that
answers with a value or with the first thing that does not fit. Integers count
as floating-point numbers, but no floating-point number counts as an integer.

Records are decoded from objects or from arrays. In an object unknown keys are
ignored; the properties are looked at in key order, so the first bad one
decides, and only then are missing fields missed, in the order of the record.
-/

namespace Conformance

open Json (numberText)

/-! ## What does not fit -/

/-- Why a JSON tree could not be decoded. -/
inductive DecodeFailure where
  | invalidType (found : Json) (expected : String)
  | outOfRange (n : Int) (expected : String)
  | missingField (key : String)
  | invalidLength (length : Nat) (expected : String)

/-- A JSON tree as error messages describe it: scalars with their value. -/
def Json.description : Json → String
  | null => "null"
  | bool b => "boolean `" ++ (if b then "true" else "false") ++ "`"
  | number (.integer n h) => "integer `" ++ numberText (.integer n h) ++ "`"
  | number (.float x h) => "floating point `" ++ numberText (.float x h) ++ "`"
  | string s => "string " ++ Text.quote s
  | array _ => "sequence"
  | object _ => "map"

def DecodeFailure.message : DecodeFailure → String
  | invalidType found expected =>
    "invalid type: " ++ found.description ++ ", expected " ++ expected
  | outOfRange n expected =>
    "invalid value: integer `" ++ toString n ++ "`, expected " ++ expected
  | missingField key => "missing field `" ++ key ++ "`"
  | invalidLength length expected =>
    "invalid length " ++ toString length ++ ", expected " ++ expected

/-! ## Decoders -/

/-- Reads a JSON tree as an `α`. -/
abbrev Decoder (α : Type) := Json → Except DecodeFailure α

namespace Decoder

variable {α β : Type}

/-- Integers from `least` to `greatest`. -/
def integer (name : String) (least greatest : Int) : Decoder Int
  | .number (.integer n _) =>
    if least ≤ n ∧ n ≤ greatest then .ok n else .error (.outOfRange n name)
  | j => .error (.invalidType j name)

/-- Integers of so many bits without sign. -/
def unsigned (bits : Nat) : Decoder Int :=
  integer ("u" ++ toString bits) 0 (Nat.pow 2 bits - 1)

/-- Integers of so many bits with sign. -/
def signed (bits : Nat) : Decoder Int :=
  integer ("i" ++ toString bits) (-Nat.pow 2 (bits - 1)) (Nat.pow 2 (bits - 1) - 1)

def float : Decoder Binary64
  | .number n => .ok n.toBinary64
  | j => .error (.invalidType j "f64")

def bool : Decoder Bool
  | .bool b => .ok b
  | j => .error (.invalidType j "a boolean")

def string : Decoder String
  | .string s => .ok s
  | j => .error (.invalidType j "a string")

def unit : Decoder Unit
  | .null => .ok ()
  | j => .error (.invalidType j "unit")

/-- Null, or what `d` reads. -/
def option (d : Decoder α) : Decoder (Option α)
  | .null => .ok none
  | j => (d j).map some

/-- Arrays of what `d` reads. -/
def list (d : Decoder α) : Decoder (List α)
  | .array items => items.mapM d
  | j => .error (.invalidType j "a sequence")

/-- The answer for an array that has more items than were asked for. -/
def overlong (items : List Json) : DecodeFailure :=
  .invalidLength items.length "fewer elements in array"

/-- Arrays of two items. -/
def pair (d : Decoder α) (e : Decoder β) : Decoder (α × β)
  | .array items =>
    let expected := "a tuple of size 2"
    match items with
    | [] => .error (.invalidLength 0 expected)
    | [first] => (d first).bind fun _ => .error (.invalidLength 1 expected)
    | first :: second :: rest => do
      let a ← d first
      let b ← e second
      if rest.isEmpty then return (a, b) else throw (overlong items)
  | j => .error (.invalidType j "a tuple of size 2")

/-- Objects with any keys and contents that `d` reads, in key order. -/
def map (d : Decoder α) : Decoder (List (String × α))
  | .object properties => properties.mapM fun p => (d p.2).map fun a => (p.1, a)
  | j => .error (.invalidType j "a map")

end Decoder

/-! ## Records -/

/-- How the fields of a record are read, all of them together. -/
structure FieldsDecoder (α : Type) where
  count : Nat
  /-- Looks whether a property fits the field it belongs to. -/
  check : String → Json → Except DecodeFailure Unit
  /-- Reads the fields from properties that fit. -/
  ofProperties : List (String × Json) → Except DecodeFailure α
  /-- Reads the fields from array items, of which `index` came before; `expected`
  describes the array that was hoped for. Items left over are given back. -/
  ofItems : (expected : String) → (index : Nat) → List Json →
    Except DecodeFailure (α × List Json)

namespace FieldsDecoder

variable {α β : Type}

/-- No fields. -/
def empty : FieldsDecoder Unit where
  count := 0
  check _ _ := .ok ()
  ofProperties _ := .ok ()
  ofItems _ _ items := .ok ((), items)

/-- A field in front of others. Where it is missing it has its default; without
one that is a failure. -/
def field (key : String) (d : Decoder α) (default? : Option α) (rest : FieldsDecoder β) :
    FieldsDecoder (α × β) where
  count := rest.count + 1
  check k j := if k = key then (d j).map fun _ => () else rest.check k j
  ofProperties properties := do
    let a ← match properties.lookup key, default? with
      | some j, _ => d j
      | none, some a => pure a
      | none, none => throw (.missingField key)
    let b ← rest.ofProperties properties
    return (a, b)
  ofItems expected index items := do
    let a ← match items, default? with
      | j :: _, _ => d j
      | [], some a => pure a
      | [], none => throw (.invalidLength index expected)
    let (b, left) ← rest.ofItems expected (index + 1) items.tail
    return ((a, b), left)

end FieldsDecoder

/-- A record with a name and fields. -/
def Decoder.record {α : Type} (name : String) (fields : FieldsDecoder α) : Decoder α
  | .object properties => do
    properties.forM fun p => fields.check p.1 p.2
    fields.ofProperties properties
  | .array items => do
    let expected := "struct " ++ name ++ " with " ++ toString fields.count ++ " elements"
    let (a, left) ← fields.ofItems expected 0 items
    if left.isEmpty then return a else throw (Decoder.overlong items)
  | j => .error (.invalidType j ("struct " ++ name))

end Conformance
