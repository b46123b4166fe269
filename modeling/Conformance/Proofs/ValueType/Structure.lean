import Conformance.Proofs.ValueType.Membership

/-!
# Conformance.Proofs.ValueType.Structure

Types that are as they should be all the way down.

* `Throughout P` — a type has `P`, and so has every type it is made of, at any depth.
* `FlatUnion`, `NormalUnion`, `DistinctNames` — what may be asked of a union and of an
  object type, of this one alone.
* `Normal` — all unions are normal, and no object type has a property twice.
-/

namespace Conformance.ValueType

/-! ## All the way down -/

/-- The types that a type is made of. -/
def parts : ValueType → List ValueType
  | array t => [t]
  | tuple ts => ts
  | object o => o.fields.map (·.2)
  | dictionary k t => [k, t]
  | union ts => ts
  | string | number | boolean | unknown | literal _ | ofClass _ => []

/-- The property holds of a type and of all types that it is made of, at every depth. -/
inductive Throughout (P : ValueType → Prop) : ValueType → Prop where
  | intro {t : ValueType} (here : P t) (parts : ∀ u ∈ t.parts, Throughout P u) :
      Throughout P t

namespace Throughout

variable {P : ValueType → Prop} {t : ValueType}

/-- What is true throughout a type is true of the type itself. -/
theorem here (h : t.Throughout P) : P t := by
  cases h with
  | intro here _ => exact here

/-- What is true throughout a type is true throughout its parts. -/
theorem parts (h : t.Throughout P) : ∀ u ∈ t.parts, u.Throughout P := by
  cases h with
  | intro _ parts => exact parts

/-- What follows at each place follows throughout. -/
theorem mono {Q : ValueType → Prop} (hPQ : ∀ u, P u → Q u) (h : t.Throughout P) :
    t.Throughout Q := by
  induction h with
  | intro here _ ih => exact .intro (hPQ _ here) ih

/-- Nothing but the type itself matters where it is not made of types. -/
theorem leaf (h : P t) (hparts : t.parts = []) : t.Throughout P :=
  .intro h (hparts ▸ fun _ hu => (List.not_mem_nil hu).elim)

end Throughout

/-! ## Unions and object types -/

def isUnion : ValueType → Bool
  | union _ => true
  | _ => false

/-- Neither of the types is equal to the other one. -/
def Unequal (s t : ValueType) : Prop := (s == t) = false ∧ (t == s) = false

instance (s t : ValueType) : Decidable (Unequal s t) :=
  inferInstanceAs (Decidable ((s == t) = false ∧ (t == s) = false))

/-- A union is something else than one single type, and its members are no unions. -/
structure FlatMembers (members : List ValueType) : Prop where
  length_ne_one : members.length ≠ 1
  isUnion_eq_false : ∀ t ∈ members, t.isUnion = false

/-- Moreover no member is `unknown`, and no member is there twice. -/
structure NormalMembers (members : List ValueType) : Prop extends FlatMembers members where
  isUnknown_eq_false : ∀ t ∈ members, t.isUnknown = false
  distinct : members.Pairwise Unequal

instance (members : List ValueType) : Decidable (FlatMembers members) :=
  decidable_of_iff (members.length ≠ 1 ∧ ∀ t ∈ members, t.isUnion = false)
    ⟨fun ⟨hlength, hflat⟩ => ⟨hlength, hflat⟩, fun h => ⟨h.length_ne_one, h.isUnion_eq_false⟩⟩

instance (members : List ValueType) : Decidable (NormalMembers members) :=
  decidable_of_iff
    (FlatMembers members ∧ (∀ t ∈ members, t.isUnknown = false) ∧ members.Pairwise Unequal)
    ⟨fun ⟨hflat, hunknown, hdistinct⟩ => ⟨hflat, hunknown, hdistinct⟩,
      fun h => ⟨h.toFlatMembers, h.isUnknown_eq_false, h.distinct⟩⟩

/-- The type is no union, or a flat one. -/
def FlatUnion : ValueType → Prop
  | union members => FlatMembers members
  | _ => True

/-- The type is no union, or a normal one. -/
def NormalUnion : ValueType → Prop
  | union members => NormalMembers members
  | _ => True

/-- The type is no object type, or one in which no name stands twice, be it among the
required or the optional properties. -/
def DistinctNames : ValueType → Prop
  | object o => (o.fields.map (·.1)).Nodup
  | _ => True

/-- At every depth, unions are normal and the properties of object types distinct. -/
def Normal (t : ValueType) : Prop := t.Throughout fun u => u.NormalUnion ∧ u.DistinctNames

end Conformance.ValueType
