import Conformance.Value.Basic

/-!
# Conformance.Mismatch

Places inside a value, and what is reported about them. A place is a root name
and the steps from there; its path is the text `root.key[0]...`.
-/

namespace Conformance

/-! ## Places -/

/-- A step from a value into one of its parts. -/
inductive Step where
  | item (index : Nat)
  | property (key : String)
  deriving DecidableEq, Repr

def Step.text : Step → String
  | item index => "[" ++ toString index ++ "]"
  | property key => "." ++ key

/-- A place inside a value, as the steps that lead there, the last one first. -/
structure Place where
  root : String
  steps : List Step := []
  deriving DecidableEq, Repr

namespace Place

def item (p : Place) (index : Nat) : Place := { p with steps := .item index :: p.steps }

def property (p : Place) (key : String) : Place := { p with steps := .property key :: p.steps }

/-- The text of a place: its root, followed by its steps in order. -/
def path (p : Place) : String := p.steps.foldr (fun step path => path ++ step.text) p.root

@[simp] theorem path_root (root : String) : path ⟨root, []⟩ = root := rfl

/-- An index is appended in brackets. -/
@[simp] theorem path_item (p : Place) (index : Nat) :
    (p.item index).path = p.path ++ "[" ++ toString index ++ "]" := by
  simp [item, path, Step.text, String.append_assoc]

/-- A key is appended behind a dot. -/
@[simp] theorem path_property (p : Place) (key : String) :
    (p.property key).path = p.path ++ "." ++ key := by
  simp [property, path, Step.text, String.append_assoc]

end Place

/-! ## Mismatches -/

/-- What was expected at a place where something else was found. -/
inductive Expectation where
  | string
  | number
  | boolean
  | array
  | object
  | host
  | predicate
  | literal
  /-- Nothing, at a place behind the end of a tuple. -/
  | undefined
  | tupleLength
  deriving DecidableEq, Repr

def Expectation.text : Expectation → String
  | string => "string"
  | number => "number"
  | boolean => "boolean"
  | array => "array"
  | object => "object"
  | host => "instance"
  | predicate => "predicate"
  | literal => "literal"
  | undefined => "undefined"
  | tupleLength => "tuple length"

/-- A place where a value fails its schema. -/
structure Mismatch where
  place : Place
  expected : Expectation
  found : Kind
  deriving DecidableEq, Repr

end Conformance
