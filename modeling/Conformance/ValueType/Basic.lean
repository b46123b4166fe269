import Conformance.Literal

/-!
# Conformance.ValueType.Basic

The types that schemas describe: what is known of a value that conforms.

- `ValueType.anyOf` joins types into a union, flattened and without duplicates.
- `ValueType.includes` says which values have a type.
- `==` on types compares literals as numbers are compared: a type that holds
  `nan` differs from itself, and types that differ in the sign of a zero agree.
-/

namespace Conformance

/-! ## Object types -/

/-- The properties of an object type, apart by whether they may be missing. -/
structure PropertyTypes (α : Type) where
  required : List (String × α) := []
  optional : List (String × α) := []

namespace PropertyTypes

variable {α : Type}

/-- All properties, the required ones first. -/
def fields (o : PropertyTypes α) : List (String × α) := o.required ++ o.optional

def get? (o : PropertyTypes α) (key : String) : Option α := o.fields.lookup key

/-- Whether the property may be missing. -/
def isOptional (o : PropertyTypes α) (key : String) : Bool := o.optional.any (·.1 == key)

def length (o : PropertyTypes α) : Nat := o.required.length + o.optional.length

def isEmpty (o : PropertyTypes α) : Bool := o.length == 0

end PropertyTypes

/-! ## Types -/

/-- The type of a value. -/
inductive ValueType where
  | string
  | number
  | boolean
  /-- Any value at all. -/
  | unknown
  /-- One value only. -/
  | literal (l : Literal)
  /-- Arrays of any length. -/
  | array (element : ValueType)
  /-- Arrays of one length, each position with its own type. -/
  | tuple (elements : List ValueType)
  | object (type : PropertyTypes ValueType)
  | ofClass (c : Class)
  /-- Objects with any keys of one type and contents of another. -/
  | dictionary (key value : ValueType)
  /-- Any of the members; without members the empty type. -/
  | union (members : List ValueType)

namespace ValueType

instance : Inhabited ValueType := ⟨unknown⟩

/-- The type of no value. -/
def never : ValueType := union []

def isUnknown : ValueType → Bool
  | unknown => true
  | _ => false

/-- The object type that a type is. -/
def propertyTypes? : ValueType → Option (PropertyTypes ValueType)
  | object o => some o
  | _ => none

/-! ## Equality -/

mutual

protected def beq : ValueType → ValueType → Bool
  | string, string => true
  | number, number => true
  | boolean, boolean => true
  | unknown, unknown => true
  | literal l, literal m => l == m
  | array s, array t => s.beq t
  | tuple ss, tuple ts => beqAll ss ts
  | object ⟨rs, os⟩, object ⟨rs', os'⟩ => beqFields rs rs' && beqFields os os'
  | ofClass c, ofClass d => c == d
  | dictionary k v, dictionary k' v' => k.beq k' && v.beq v'
  | union ss, union ts => beqAll ss ts
  | _, _ => false
termination_by structural t => t

def beqAll : List ValueType → List ValueType → Bool
  | [], [] => true
  | s :: ss, t :: ts => s.beq t && beqAll ss ts
  | _, _ => false
termination_by structural ts => ts

def beqFields : List (String × ValueType) → List (String × ValueType) → Bool
  | [], [] => true
  | (k, s) :: fs, (l, t) :: gs => k == l && s.beq t && beqFields fs gs
  | _, _ => false
termination_by structural fs => fs

end

instance : BEq ValueType := ⟨ValueType.beq⟩

/-! ## Unions -/

/-- Adds a member unless an equal one is there already. -/
def addMember (members : List ValueType) (t : ValueType) : List ValueType :=
  if members.any (· == t) then members else members ++ [t]

/-- What a type adds to a union: its members if it is a union itself. -/
def alternatives : ValueType → List ValueType
  | union members => members
  | t => [t]

/-- The union of some types, with the unions among them flattened and each
alternative kept once. With `unknown` among them it is `unknown`, and a single
alternative is no union. -/
def anyOf (types : List ValueType) : ValueType :=
  if types.any isUnknown then unknown
  else match (types.flatMap alternatives).foldl addMember [] with
    | [t] => t
    | members => union members

/-! ## Membership -/

mutual

/-- Whether a value has the type. -/
def includes : ValueType → Value → Bool
  | unknown, _ => true
  | string, .string _ => true
  | number, .number _ => true
  | boolean, .bool _ => true
  | literal l, v => l.accepts v
  | array t, .array items => items.all fun item => t.includes item
  | tuple ts, .array items => includesEach ts items
  | object ⟨required, optional⟩, v =>
    v.hasProperties && includesFields required v && includesFields optional v
  | ofClass c, .host i => i.belongsTo c
  | dictionary k t, .object properties =>
    properties.all fun p => k.includes (.string p.1) && t.includes p.2
  | union ts, v => someIncludes ts v
  | _, _ => false
termination_by structural t => t

/-- Whether the values are as many as the types and each has its own. -/
def includesEach : List ValueType → List Value → Bool
  | [], [] => true
  | t :: ts, v :: vs => t.includes v && includesEach ts vs
  | _, _ => false
termination_by structural ts => ts

/-- Whether every property has its type. -/
def includesFields : List (String × ValueType) → Value → Bool
  | [], _ => true
  | (k, t) :: fs, v => t.includes (v.property k) && includesFields fs v
termination_by structural fs => fs

/-- Whether the value has one of the types. -/
def someIncludes : List ValueType → Value → Bool
  | [], _ => false
  | t :: ts, v => t.includes v || someIncludes ts v
termination_by structural ts => ts

end

end ValueType

end Conformance
