import Conformance.Decimal.Layout
import Conformance.Toml.Document

/-!
# Conformance.Settings.Tree

Settings as a loose tree: names are compared in lower case, a name may be a path
into the tree, and a setting is turned into the type that is asked for as far as
there is a sensible way to do it.
-/

namespace Conformance

/-- A setting, or a tree of them. Names in tables are in lower case. -/
inductive Setting where
  | absent
  | bool (b : Bool)
  | integer (n : Int)
  | float (x : Binary64)
  | text (s : String)
  | list (items : List Setting)
  | table (entries : List (String × Setting))

namespace Setting

/-! ## From TOML -/

mutual

/-- The setting that a TOML value is. Dates are their text. -/
def ofToml : Toml → Setting
  | .string s => text s
  | .integer n => integer n
  | .float x => float x
  | .bool b => bool b
  | .dateTime d => text d.text
  | .array items => list (itemsOfToml items)
  | .table entries => table (entriesOfToml entries)
termination_by structural v => v

def itemsOfToml : List Toml → List Setting
  | [] => []
  | v :: vs => ofToml v :: itemsOfToml vs
termination_by structural vs => vs

def entriesOfToml : List (String × Toml) → List (String × Setting)
  | [] => []
  | (k, v) :: entries => (k, ofToml v) :: entriesOfToml entries
termination_by structural entries => entries

end

/-! ## Setting by name -/

/-- A name in lower case. The names of settings are ASCII. -/
def fold (name : String) : String := name.map Char.toLower

/-- The entries of a table. Other settings have none. -/
def entries : Setting → List (String × Setting)
  | table entries => entries
  | _ => []

/-- The items of a list. Other settings have none. -/
def items : Setting → List Setting
  | list items => items
  | _ => []

/-- Replaces an entry, in place if the name is there and at the end if not. -/
def putEntry (name : String) (s : Setting) : List (String × Setting) → List (String × Setting)
  | [] => [(name, s)]
  | (k, t) :: rest => if k = name then (k, s) :: rest else (k, t) :: putEntry name s rest

mutual

/-- Sets a name in a table. Anything else becomes a table first. A table is merged
into what is there, all else replaces it. -/
def assign (target : Setting) (name : String) (s : Setting) : Setting :=
  let inner : Setting := match s with
    | table added => assignAll ((target.entries.lookup (fold name)).getD (table [])) added
    | s => s
  table (putEntry (fold name) inner target.entries)
termination_by structural s

def assignAll (target : Setting) (added : List (String × Setting)) : Setting :=
  match added with
  | [] => target
  | (name, s) :: added => assignAll (target.assign name s) added
termination_by structural added

end

/-! ## Setting by path -/

/-- A step of a path. Items may be counted from the end, by negative numbers. -/
inductive PathStep where
  | child (name : String)
  | item (index : Int)

/-- Whether a character can belong to a name in a path. -/
def isNameChar (c : Char) : Bool := c.isAlphanum || c = '_' || c = '-' || c = ' '

open Toml (Scan skipBlanks)

/-- Takes a name of a path. -/
def scanName : Scan PathStep := do
  let cs ← Scan.takeWhile isNameChar
  if cs.isEmpty then failure else return .child (String.ofList cs)

/-- Takes the index of an item, after its bracket. Blanks may stand around it. -/
def scanIndex : Scan PathStep := do
  skipBlanks
  let negative ← Scan.accept '-'
  let ds ← Scan.takeWhile Char.isDigit
  skipBlanks
  Scan.expect ']'
  let index := Binary64.signedInt negative (Decimal.natOfDigits ds)
  if ds.isEmpty || !Toml.fitsWord index then failure else return .item index

/-- The steps of a path such as `a.b[0].c`. -/
def pathOf? (path : String) : Option (List PathStep) := do
  let scan : Scan (List PathStep) := do
    let first ← scanName
    let others ← Scan.repeated do
      if ← Scan.accept '.' then some <$> scanName
      else if ← Scan.accept '[' then some <$> scanIndex
      else return none
    return first :: others
  let (steps, rest) ← scan path.toList
  if rest.isEmpty then some steps else none

/-- Items with room for an index, and the position it means. Missing items are made
behind the last one, or before the first for a negative index. -/
def roomFor (index : Int) (items : List Setting) : List Setting × Nat :=
  let n := index.natAbs
  if 0 ≤ index then (items ++ List.replicate (n + 1 - items.length) absent, n)
  else (List.replicate (n - items.length) absent ++ items, items.length - n)

/-- Sets what a path leads to. What is missing on the way is made, and what is in
the way is replaced. -/
def assignAt (s : Setting) : List PathStep → Setting → Setting
  | [], _ => s
  | [.child name], target => target.assign name s
  | .child name :: steps, target =>
    let inner := (target.entries.lookup (fold name)).getD absent
    table (putEntry (fold name) (assignAt s steps inner) target.entries)
  | .item index :: steps, target =>
    let (items, i) := roomFor index target.items
    list (items.set i (assignAt s steps (items[i]?.getD absent)))

/-- The settings of a TOML document. Its top-level keys are paths if they can be
read as such. -/
def ofDocument (document : List (String × Toml)) : Setting :=
  document.foldl
    (fun settings entry =>
      let s := ofToml entry.2
      match pathOf? entry.1 with
      | some steps => assignAt s steps settings
      | none => settings.assign entry.1 s)
    (table [])

/-! ## Conversions -/

/-- A setting as text. Numbers have their plain text. -/
def toText? : Setting → Option String
  | text s => some s
  | bool b => some (if b then "true" else "false")
  | integer n => some (toString n)
  | float x => some (Decimal.Layout.plain.format x)
  | _ => none

/-- The greatest count. -/
def maxCount : Nat := 0xFFFFFFFFFFFFFFFF

/-- A count written in digits, perhaps after a plus sign. -/
def countOfDigits? (cs : List Char) : Option Nat :=
  let ds := match cs with
    | '+' :: rest => rest
    | cs => cs
  let n := Decimal.natOfDigits ds
  if ds ≠ [] ∧ ds.all Char.isDigit ∧ n ≤ maxCount then some n else none

/-- A setting as a count. Fractions are rounded, a half upwards; words for yes and
no count as one and zero. -/
def toCount? : Setting → Option Nat
  | integer n => if 0 ≤ n then some n.toNat else none
  | bool b => some b.toNat
  | float x => some (x.toNatSaturating maxCount)
  | text s =>
    let word := fold s
    if word ∈ ["true", "on", "yes"] then some 1
    else if word ∈ ["false", "off", "no"] then some 0
    else countOfDigits? s.toList
  | _ => none

end Setting

end Conformance
