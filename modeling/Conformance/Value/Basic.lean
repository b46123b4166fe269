import Conformance.Binary64
import Conformance.HostObject
import Conformance.Properties

/-!
# Conformance.Value.Basic

The untyped values that schemas are matched against: the JSON data model, plus
`undefined`, which is also what a missing property reads as, plus host objects.

- `Value.property` reads a property the way an accessor does and never fails.
- `==` compares contents, numbers by `Binary64` equality and host objects by
  identity; it is reflexive on values without `nan` only.
- `Value.WellFormed` says that the properties of every object are in key order.
- `Value.wellFormed_ofProperties`, `Value.property_ofProperties`: an object made of pairs
  is well formed if what it holds is, and reads as the last pair of each key says.
-/

namespace Conformance

/-! ## Values -/

/-- An untyped value. The properties of an object are in key order. -/
inductive Value where
  | undefined
  | null
  | bool (b : Bool)
  | number (x : Binary64)
  | string (s : String)
  | array (items : List Value)
  | object (properties : List (String × Value))
  | host (i : HostObject)

/-- What a value is, as diagnostics name it. -/
inductive Kind where
  | undefined
  | null
  | boolean
  | number
  | string
  | array
  | object
  | host
  deriving DecidableEq, Repr

def Kind.text : Kind → String
  | undefined => "undefined"
  | null => "null"
  | boolean => "boolean"
  | number => "number"
  | string => "string"
  | array => "array"
  | object => "object"
  | host => "instance"

namespace Value

instance : Inhabited Value := ⟨undefined⟩

def kind : Value → Kind
  | undefined => .undefined
  | null => .null
  | bool _ => .boolean
  | number _ => .number
  | string _ => .string
  | array _ => .array
  | object _ => .object
  | host _ => .host

/-- The object with the given properties; of two with one key the later counts. -/
def ofProperties (pairs : List (String × Value)) : Value := object (Properties.ofList pairs)

/-- Whether values of this kind carry properties. -/
def hasProperties : Value → Bool
  | array _ | object _ | host _ => true
  | _ => false

/-- Whether the value is a host object of class `c`. -/
def belongsTo (value : Value) (c : Class) : Bool :=
  match value with
  | host i => i.belongsTo c
  | _ => false

def isUndefined : Value → Bool
  | undefined => true
  | _ => false

def isNull : Value → Bool
  | null => true
  | _ => false

/-! ## Properties -/

/-- The index a key denotes: its decimal digits, without leading zeros. -/
def arrayIndex? (key : String) : Option Nat :=
  let n := key.toList.foldl (fun n c => 10 * n + (c.toNat - '0'.toNat)) 0
  if toString n = key then some n else none

/-- The property `key` of a value. Objects have the properties they hold, arrays
have their items under canonical indices and their `length`, and every other
property of every value reads as `undefined`. -/
def property (value : Value) (key : String) : Value :=
  match value with
  | object properties => (properties.lookup key).getD undefined
  | array items =>
    if key = "length" then number (.ofNat items.length)
    else ((arrayIndex? key).bind (items[·]?)).getD undefined
  | _ => undefined

/-! ## Equality -/

mutual

/-- Equality of contents. -/
protected def beq : Value → Value → Bool
  | undefined, undefined => true
  | null, null => true
  | bool a, bool b => a == b
  | number x, number y => x == y
  | string s, string t => s == t
  | array xs, array ys => beqItems xs ys
  | object ps, object qs => beqProperties ps qs
  | host i, host j => i == j
  | _, _ => false
termination_by structural v => v

def beqItems : List Value → List Value → Bool
  | [], [] => true
  | x :: xs, y :: ys => x.beq y && beqItems xs ys
  | _, _ => false
termination_by structural vs => vs

def beqProperties : List (String × Value) → List (String × Value) → Bool
  | [], [] => true
  | (k, x) :: ps, (l, y) :: qs => k == l && x.beq y && beqProperties ps qs
  | _, _ => false
termination_by structural ps => ps

end

instance : BEq Value := ⟨Value.beq⟩

/-! ## Well-formed values -/

mutual

/-- The properties of every object in the value are in key order. -/
def WellFormed : Value → Prop
  | array items => ItemsWellFormed items
  | object properties => Properties.Sorted properties ∧ PropertiesWellFormed properties
  | _ => True
termination_by structural v => v

def ItemsWellFormed : List Value → Prop
  | [] => True
  | v :: vs => v.WellFormed ∧ ItemsWellFormed vs
termination_by structural vs => vs

def PropertiesWellFormed : List (String × Value) → Prop
  | [] => True
  | (_, v) :: ps => v.WellFormed ∧ PropertiesWellFormed ps
termination_by structural ps => ps

end

/-- Items are well formed one by one. -/
theorem itemsWellFormed_iff {vs : List Value} :
    ItemsWellFormed vs ↔ ∀ v ∈ vs, v.WellFormed := by
  induction vs with
  | nil => simp [ItemsWellFormed]
  | cons v vs ih => simp [ItemsWellFormed, ih]

theorem propertiesWellFormed_iff {ps : List (String × Value)} :
    PropertiesWellFormed ps ↔ ∀ p ∈ ps, p.2.WellFormed := by
  induction ps with
  | nil => simp [PropertiesWellFormed]
  | cons p ps ih => simp [PropertiesWellFormed, ih]

/-! ## Objects from pairs -/

/-- An object of well-formed contents is well formed, in whatever order they are given. -/
theorem wellFormed_ofProperties {pairs : List (String × Value)}
    (h : ∀ p ∈ pairs, p.2.WellFormed) : (ofProperties pairs).WellFormed :=
  ⟨Properties.sorted_ofList pairs,
    propertiesWellFormed_iff.2 fun p hp => h p (Properties.mem_ofList hp)⟩

/-- Of two properties with one key the later is read. -/
theorem property_ofProperties (pairs : List (String × Value)) (key : String) :
    (ofProperties pairs).property key = (pairs.reverse.lookup key).getD undefined := by
  rw [ofProperties, property, Properties.lookup_ofList]

end Value

end Conformance
