import Conformance.Schema.Basic

/-!
# Conformance.Schema.Declarations

Object schemas as maps from keys to schemas that remember the order in which the
keys were first declared. Declaring a key again replaces its schema and keeps its
place, so keys are always distinct.
-/

namespace Conformance

/-- Declared properties with distinct keys, in order of declaration. -/
structure Declarations where
  fields : List (String × Schema) := []
  nodup_keys : (fields.map (·.1)).Nodup := by simp

namespace Declarations

/-- Sets the schema of a key in a list of declarations, in place if the key is
there and at the end if not. -/
def declare (key : String) (schema : Schema) : List (String × Schema) → List (String × Schema)
  | [] => [(key, schema)]
  | (k, s) :: fields =>
    if k = key then (k, schema) :: fields else (k, s) :: declare key schema fields

/-- A key that is declared again keeps its place, and a new one goes to the end. -/
theorem keys_declare (key : String) (schema : Schema) (fields : List (String × Schema)) :
    (declare key schema fields).map (·.1) =
      if key ∈ fields.map (·.1) then fields.map (·.1) else fields.map (·.1) ++ [key] := by
  induction fields with
  | nil => simp [declare]
  | cons p fields ih =>
    obtain ⟨k, s⟩ := p
    by_cases h : k = key
    · simp [declare, h]
    · have hk : ¬key = k := fun hk => h hk.symm
      simp only [declare, h, if_false, List.map_cons, ih, List.mem_cons, hk, false_or]
      split <;> rfl

/-- Declares a property. An earlier schema of the same key is replaced. -/
def insert (o : Declarations) (key : String) (schema : Schema) : Declarations where
  fields := declare key schema o.fields
  nodup_keys := by
    rw [keys_declare]
    have hnodup := o.nodup_keys
    split
    case isTrue => exact hnodup
    case isFalse h =>
      exact List.nodup_append.2 ⟨hnodup, by simp, fun a ha b hb hab =>
        h (List.mem_singleton.1 hb ▸ hab ▸ ha)⟩

/-- Declares several properties, one after the other. -/
def insertAll (o : Declarations) (pairs : List (String × Schema)) : Declarations :=
  pairs.foldl (fun o p => o.insert p.1 p.2) o

/-- The object schema of some declarations. -/
def ofList (pairs : List (String × Schema)) : Declarations := insertAll {} pairs

def get? (o : Declarations) (key : String) : Option Schema := o.fields.lookup key

def keys (o : Declarations) : List String := o.fields.map (·.1)

def length (o : Declarations) : Nat := o.fields.length

def isEmpty (o : Declarations) : Bool := o.fields.isEmpty

/-- The declarations as a schema. -/
def toSchema (o : Declarations) : Schema := .object o.fields

end Declarations

end Conformance
