import Conformance.Decimal.Layout
import Conformance.Json.Basic
import Conformance.Text.Hexadecimal

/-!
# Conformance.Json.Printer

The compact text of a JSON tree: no blanks, properties in key order, and in
strings only the escapes that JSON asks for.
-/

namespace Conformance.Json

/-- Numbers that are no integers have a fraction or an exponent: positional from
`10 ^ -5` up to `10 ^ 16`, and otherwise an exponent with its sign. -/
def floatLayout : Decimal.Layout where
  tie := .even
  positional x := -5 ≤ x && x ≤ 15
  pointZero := true
  plusSign := true

def numberText : JsonNumber → String
  | .integer n _ => toString n
  | .float x _ => floatLayout.format x

/-- A character as it stands in a JSON string. -/
def escapeChar (c : Char) : List Char :=
  if c = '"' then ['\\', '"']
  else if c = '\\' then ['\\', '\\']
  else if c = '\n' then ['\\', 'n']
  else if c = '\r' then ['\\', 'r']
  else if c = '\t' then ['\\', 't']
  else if c = '\x08' then ['\\', 'b']
  else if c = '\x0c' then ['\\', 'f']
  else if c.toNat < 0x20 then
    ['\\', 'u', '0', '0', Text.hexDigit (c.toNat / 16), Text.hexDigit c.toNat]
  else [c]

def stringText (s : String) : String :=
  String.ofList ('"' :: (s.toList.flatMap escapeChar ++ ['"']))

mutual

/-- The compact text of a JSON tree. -/
def text : Json → String
  | null => "null"
  | bool b => if b then "true" else "false"
  | number n => numberText n
  | string s => stringText s
  | array items => "[" ++ ",".intercalate (itemTexts items) ++ "]"
  | object properties => "\x7b" ++ ",".intercalate (propertyTexts properties) ++ "\x7d"
termination_by structural j => j

def itemTexts : List Json → List String
  | [] => []
  | j :: js => j.text :: itemTexts js
termination_by structural js => js

def propertyTexts : List (String × Json) → List String
  | [] => []
  | (k, j) :: ps => (stringText k ++ ":" ++ j.text) :: propertyTexts ps
termination_by structural ps => ps

end

end Conformance.Json
