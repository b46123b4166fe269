import Conformance.Schema.Basic

/-!
# Conformance.Schema.Exploration

Exploring a value along a schema, and what is found on the way: the places where
the value is not as the schema says.

The number of mismatches may be capped. Once as many have been found as the cap
allows, of which one is always allowed, nothing more is looked at. An exploration
goes no deeper than the schema does, so it ends on every value.

- An array schema with one element looks at every item. One with several looks
  position by position; the length counts only if no position has failed.
- An object schema looks at the keys it declares, in order, and at no others.
- A predicate stands for one place, whatever it looks at, and what it reports
  comes before the mismatch it causes.
-/

namespace Conformance

/-! ## Findings -/

/-- A line of the log: a mismatch of the exploration itself, or what a predicate
has reported. -/
inductive Findings.Entry where
  | own (m : Mismatch)
  | inner (e : Event)

/-- What an exploration has found so far. -/
structure Findings where
  mismatches : Array Mismatch := #[]
  log : Array Findings.Entry := #[]

namespace Findings

/-- The event that a line of the log stands for. -/
def Entry.event : Entry → Event
  | own m => .mismatch m
  | inner e => e

/-- Whether so many mismatches are as many as the cap allows. -/
def reaches (count : Nat) (cap : Option Nat) : Bool := cap.any fun n => max n 1 ≤ count

/-- Whether as many mismatches have been found as the cap allows. -/
def isFull (cap : Option Nat) (found : Findings) : Bool := reaches found.mismatches.size cap

/-- Adds a mismatch. It is logged in any case, and kept unless the cap is reached. -/
def add (cap : Option Nat) (place : Place) (expected : Expectation) (value : Value) :
    Findings → Findings
  | ⟨mismatches, log⟩ =>
    let m : Mismatch := ⟨place, expected, value.kind⟩
    ⟨if reaches mismatches.size cap then mismatches else mismatches.push m, log.push (.own m)⟩

/-- Adds a mismatch unless the expectation is met. -/
def addUnless (isMet : Bool) (cap : Option Nat) (place : Place) (expected : Expectation)
    (value : Value) (found : Findings) : Findings :=
  if isMet then found else found.add cap place expected value

/-- Logs what a predicate has reported. -/
def note (events : List Event) : Findings → Findings
  | ⟨mismatches, log⟩ => ⟨mismatches, log ++ (events.map .inner).toArray⟩

/-- Looks at items behind the end of a tuple, which have to be `undefined`. -/
def addExcess (cap : Option Nat) (place : Place) (index : Nat) (items : List Value)
    (found : Findings) : Findings :=
  match items with
  | [] => found
  | item :: items =>
    let isMet := found.isFull cap || item.isUndefined
    (found.addUnless isMet cap (place.item index) .undefined item).addExcess cap place
      (index + 1) items

/-- Compares the length of a tuple with the schema, unless there are more mismatches
than the `count` that there were before its items. -/
def addLength (cap : Option Nat) (place : Place) (arity : Nat) (items : List Value)
    (count : Nat) (found : Findings) : Findings :=
  let isMet := found.mismatches.size != count || items.length == arity
  found.addUnless isMet cap place .tupleLength (.array items)

end Findings

/-! ## Exploring -/

namespace Schema

mutual

/-- Looks at a value at a place, after what has been found before. -/
def explore (cap : Option Nat) (schema : Schema) (value : Value) (place : Place)
    (found : Findings) : Findings :=
  if found.isFull cap then found
  else match schema with
    | string => found.addUnless (value.kind == .string) cap place .string value
    | number => found.addUnless (value.kind == .number) cap place .number value
    | boolean => found.addUnless (value.kind == .boolean) cap place .boolean value
    | array elements => match value with
      | .array items => match elements with
        | [] => found
        | [element] =>
          items.zipIdx.foldl
            (fun found item => element.explore cap item.1 (place.item item.2) found) found
        | elements =>
          let count := found.mismatches.size
          (exploreTuple cap elements items 0 place found).addLength cap place
            elements.length items count
      | value => found.add cap place .array value
    | object fields =>
      if value.hasProperties then exploreFields cap fields value place found
      else found.add cap place .object value
    | ofClass c => found.addUnless (value.belongsTo c) cap place .host value
    | predicate p =>
      let answer := p.check value
      (found.note answer.events).addUnless answer.result cap place .predicate value
    | literal l => found.addUnless (l.accepts value) cap place .literal value
termination_by structural schema

/-- Looks at the items of a tuple, from position `index` on. -/
def exploreTuple (cap : Option Nat) (elements : List Schema) (items : List Value)
    (index : Nat) (place : Place) (found : Findings) : Findings :=
  match elements, items with
  | _, [] => found
  | [], items => found.addExcess cap place index items
  | element :: elements, item :: items =>
    exploreTuple cap elements items (index + 1) place
      (element.explore cap item (place.item index) found)
termination_by structural elements

/-- Looks at the declared properties of a value. -/
def exploreFields (cap : Option Nat) (fields : List (String × Schema)) (value : Value)
    (place : Place) (found : Findings) : Findings :=
  match fields with
  | [] => found
  | (key, schema) :: fields =>
    exploreFields cap fields value place
      (schema.explore cap (value.property key) (place.property key) found)
termination_by structural fields

end

/-- All that is found in a value, with the value itself named `root`. -/
def findings (schema : Schema) (cap : Option Nat) (value : Value) (root : String) : Findings :=
  schema.explore cap value ⟨root, []⟩ {}

end Schema

end Conformance
