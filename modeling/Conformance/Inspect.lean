import Conformance.Schema.Basic
import Conformance.ValueType.Text

/-!
# Conformance.Inspect

Texts of values, schemas and types for debugging: every constructor with its
name, `Name(content)`, `Name { field: content }`, lists and pairs in brackets.
Predicates show their mark and the type they claim, as types are rendered.
-/

namespace Conformance

namespace Inspect

/-- Numbers always have a point or an exponent: positional from `10 ^ -4` up to
`10 ^ 16`. -/
def numberLayout : Decimal.Layout where
  positional x := -4 ≤ x && x < 16
  pointZero := true

def boolText (b : Bool) : String := if b then "true" else "false"

def numberText (x : Binary64) : String := numberLayout.format x

/-- A constructor with its content. -/
def variant (name content : String) : String := name ++ "(" ++ content ++ ")"

/-- A constructor with named fields, given as texts. -/
def fields (name : String) (contents : List String) : String :=
  name ++ " \x7b " ++ ValueType.joined ", " contents ++ " \x7d"

def field (name content : String) : String := name ++ ": " ++ content

def list (contents : List String) : String := "[" ++ ValueType.joined ", " contents ++ "]"

def map (contents : List String) : String := "\x7b" ++ ValueType.joined ", " contents ++ "\x7d"

/-- A key with its content, as a pair. -/
def pair (key content : String) : String := "(" ++ Text.quote key ++ ", " ++ content ++ ")"

end Inspect

open Inspect

def Class.inspect (c : Class) : String := variant "ClassRef" c.name

def HostObject.inspect (i : HostObject) : String :=
  fields "Instance" [field "class" (Text.quote i.concrete.name),
    field "ancestors" (list (i.declared.map Class.inspect)), ".."]

def Literal.inspect : Literal → String
  | undefined => "Undefined"
  | null => "Null"
  | bool b => variant "Bool" (boolText b)
  | number x => variant "Number" (numberText x)
  | string s => variant "String" (Text.quote s)

namespace Value

mutual

def inspect : Value → String
  | undefined => "Undefined"
  | null => "Null"
  | bool b => variant "Bool" (boolText b)
  | number x => variant "Number" (numberText x)
  | string s => variant "String" (Text.quote s)
  | array items => variant "Array" (list (inspectItems items))
  | object properties => variant "Object" (map (inspectProperties properties))
  | host i => variant "Instance" i.inspect
termination_by structural v => v

def inspectItems : List Value → List String
  | [] => []
  | v :: vs => v.inspect :: inspectItems vs
termination_by structural vs => vs

def inspectProperties : List (String × Value) → List String
  | [] => []
  | (k, v) :: ps => field (Text.quote k) v.inspect :: inspectProperties ps
termination_by structural ps => ps

end

end Value

namespace ValueType

mutual

def inspect : ValueType → String
  | string => "String"
  | number => "Number"
  | boolean => "Boolean"
  | unknown => "Unknown"
  | literal l => variant "Literal" l.inspect
  | array t => variant "Array" t.inspect
  | tuple ts => variant "Tuple" (list (inspectAll ts))
  | object ⟨required, optional⟩ =>
    variant "Object" (fields "ObjectType" [field "required" (list (inspectFields required)),
      field "optional" (list (inspectFields optional))])
  | ofClass c => variant "Instance" c.inspect
  | dictionary k t => fields "Record" [field "key" k.inspect, field "value" t.inspect]
  | union ts => variant "Union" (list (inspectAll ts))
termination_by structural t => t

def inspectAll : List ValueType → List String
  | [] => []
  | t :: ts => t.inspect :: inspectAll ts
termination_by structural ts => ts

def inspectFields : List (String × ValueType) → List String
  | [] => []
  | (k, t) :: fs => pair k t.inspect :: inspectFields fs
termination_by structural fs => fs

end

end ValueType

def Predicate.inspect (p : Predicate) : String :=
  fields "Predicate"
    [field "optional" (boolText p.isOptional), field "declared" p.claimed.text, ".."]

namespace Schema

mutual

def inspect : Schema → String
  | string => "String"
  | number => "Number"
  | boolean => "Boolean"
  | array elements => variant "Array" (list (inspectAll elements))
  | object fs =>
    variant "Object" (fields "ObjectSchema" [field "fields" (list (inspectFields fs))])
  | ofClass c => variant "Class" c.inspect
  | predicate p => variant "Predicate" p.inspect
  | literal l => variant "Literal" l.inspect
termination_by structural s => s

def inspectAll : List Schema → List String
  | [] => []
  | s :: ss => s.inspect :: inspectAll ss
termination_by structural ss => ss

def inspectFields : List (String × Schema) → List String
  | [] => []
  | (k, s) :: fs => pair k s.inspect :: inspectFields fs
termination_by structural fs => fs

end

end Schema

end Conformance
