import Conformance.Class

/-!
# Conformance.HostObject

Objects of the surrounding program. A schema sees no more of one than the classes
it belongs to: the class it was made with, and further ones it has been declared
to belong to. Nothing inside an object is ever looked at.

- `declared_declare`: a declaration puts one class at the end, unless the object
  belongs to it already.
- `belongsTo_declare`: it adds one class and takes none away.
- `concrete_declare`, `identity_declare`, `payload_declare`: it changes nothing else.
-/

namespace Conformance

/-- The data a host object carries for its owner. -/
inductive Payload where
  | empty
  | integer (n : Int)
  | text (s : String)
  deriving DecidableEq, Repr

/-- A host object: the class it was made with, the other classes it belongs to in
order of declaration, and the number that tells it from every other object. -/
structure HostObject where
  concrete : Class
  declared : List Class := []
  identity : Nat
  payload : Payload := .empty
  nodup_declared : declared.Nodup := by simp
  concrete_notMem : concrete ∉ declared := by simp

namespace HostObject

/-- An object as it is made with class `c`. Nothing has been declared of it. -/
def ofClass (c : Class) (identity : Nat) (payload : Payload := .empty) : HostObject where
  concrete := c
  identity := identity
  payload := payload
  nodup_declared := List.nodup_nil
  concrete_notMem := List.not_mem_nil

/-- Declares that the object belongs to `c` as well. Classes it belongs to already
are not declared again. -/
def declare (i : HostObject) (c : Class) : HostObject :=
  if h : c = i.concrete ∨ c ∈ i.declared then i
  else
    { i with
      declared := i.declared ++ [c]
      nodup_declared := by
        simp only [not_or] at h
        simpa [List.nodup_append, i.nodup_declared] using
          fun (a : Class) (ha : a ∈ i.declared) (hac : a = c) => h.2 (hac ▸ ha)
      concrete_notMem := by
        simp only [not_or] at h
        simpa [i.concrete_notMem] using fun hc : i.concrete = c => h.1 hc.symm }

/-- Declares several classes, one after the other. -/
def declareAll (i : HostObject) (cs : List Class) : HostObject := cs.foldl declare i

/-- Whether the object belongs to class `c`. -/
def belongsTo (i : HostObject) (c : Class) : Bool :=
  i.concrete == c || i.declared.contains c

/-- The data of an object that was made with class `c`. -/
def payloadAs? (i : HostObject) (c : Class) : Option Payload :=
  if i.concrete = c then some i.payload else none

/-- Objects are equal when they are one object, whatever has been declared. -/
instance : BEq HostObject := ⟨fun i j => i.identity == j.identity⟩

/-- Neither classes nor data are compared. -/
theorem beq_iff {i j : HostObject} : (i == j) = true ↔ i.identity = j.identity := by
  change (i.identity == j.identity) = true ↔ _
  exact beq_iff_eq

@[simp] theorem concrete_declare (i : HostObject) (c : Class) :
    (i.declare c).concrete = i.concrete := by
  unfold declare; split <;> rfl

/-- An object remains itself, so it is equal to what it was before. -/
@[simp] theorem identity_declare (i : HostObject) (c : Class) :
    (i.declare c).identity = i.identity := by
  unfold declare; split <;> rfl

@[simp] theorem payload_declare (i : HostObject) (c : Class) :
    (i.declare c).payload = i.payload := by
  unfold declare; split <;> rfl

/-- The class it was made with counts like those declared later. -/
theorem belongsTo_iff {i : HostObject} {c : Class} :
    i.belongsTo c = true ↔ i.concrete = c ∨ c ∈ i.declared := by
  simp [belongsTo]

/-- The new class goes to the end. What is known already is not repeated. -/
theorem declared_declare (i : HostObject) (c : Class) :
    (i.declare c).declared = if i.belongsTo c then i.declared else i.declared ++ [c] := by
  simp only [belongsTo_iff, eq_comm (a := i.concrete)]
  unfold declare
  split <;> rfl

/-- A declaration adds one class and takes none away. -/
theorem belongsTo_declare {i : HostObject} {c d : Class} :
    (i.declare c).belongsTo d = true ↔ d = c ∨ i.belongsTo d = true := by
  rw [belongsTo_iff, belongsTo_iff, concrete_declare, declared_declare]
  split
  case isTrue h => grind [belongsTo_iff]
  case isFalse => grind

end HostObject

end Conformance
