import Conformance.Text.Identifier
import Conformance.ValueType.Basic

/-!
# Conformance.ValueType.Text

The text of a type: `string | number`, `(string | number)[]`, `[string, "a"]`,
`{ id: number; title?: string }`, `Record<string, number>`, `never`.

Keys that are no identifiers stand in quotes. Only a union of several members
needs parentheses, and only before `[]`.
-/

namespace Conformance.ValueType

/-- Texts one after the other with a separator between them. -/
def joined (separator : String) : List String → String
  | [] => ""
  | [t] => t
  | t :: ts => t ++ separator ++ joined separator ts

/-- A property name as it stands in an object type. -/
def keyText (key : String) : String :=
  if Text.isIdentifier key then key else Text.quote key

/-- Whether a type has to stand in parentheses before `[]`. -/
def isChoice : ValueType → Bool
  | union (_ :: _ :: _) => true
  | _ => false

/-- The text of an object type from the texts of its properties. -/
def objectText (properties : List String) : String :=
  if properties.isEmpty then "\x7b\x7d"
  else "\x7b " ++ joined "; " properties ++ " \x7d"

mutual

/-- The text of a type. -/
def text : ValueType → String
  | string => "string"
  | number => "number"
  | boolean => "boolean"
  | unknown => "unknown"
  | literal l => l.text
  | array t => if t.isChoice then "(" ++ t.text ++ ")[]" else t.text ++ "[]"
  | tuple ts => "[" ++ joined ", " (texts ts) ++ "]"
  | object ⟨required, optional⟩ =>
    let mark (key : String) := optional.any (·.1 == key)
    objectText (fieldTexts mark required ++ fieldTexts mark optional)
  | ofClass c => c.baseName
  | dictionary k t => "Record<" ++ k.text ++ ", " ++ t.text ++ ">"
  | union [] => "never"
  | union ts => joined " | " (texts ts)
termination_by structural t => t

def texts : List ValueType → List String
  | [] => []
  | t :: ts => t.text :: texts ts
termination_by structural ts => ts

/-- The texts of properties; `mark` tells which of them may be missing. -/
def fieldTexts (mark : String → Bool) : List (String × ValueType) → List String
  | [] => []
  | (k, t) :: fs =>
    (keyText k ++ (if mark k then "?: " else ": ") ++ t.text) :: fieldTexts mark fs
termination_by structural fs => fs

end

end Conformance.ValueType
