import Conformance.Toml.Scalar

/-!
# Conformance.Toml.DateTable

Dates given as tables. A table whose first key is `dateKey` is no table but the
date that the string under this key denotes, and what else it holds is ignored.
Without such a string it has no meaning, and neither has the document around it.
Anywhere but in front the key is a key like any other.
-/

namespace Conformance.Toml

/-- The key that marks a table as a date. -/
def dateKey : String := "$__toml_private_datetime"

/-- What a table holds under the mark of a date, if it begins with it. -/
def marked? : List (String × Toml) → Option Toml
  | [] => none
  | (key, v) :: _ => if key = dateKey then some v else none

/-- The date that a value denotes, which has to be a string. -/
def dateOf? : Toml → Option DateTime
  | .string s => dateTime? .quoted s.toList
  | _ => none

mutual

/-- The value with the date tables in it as dates. -/
def withDates : Toml → Option Toml
  | .array items => (itemsWithDates items).map .array
  | .table entries => match marked? entries with
    | some v => (dateOf? v).map .dateTime
    | none => (entriesWithDates entries).map .table
  | v => some v
termination_by structural v => v

def itemsWithDates : List Toml → Option (List Toml)
  | [] => some []
  | v :: vs => do
    let v ← withDates v
    let vs ← itemsWithDates vs
    return v :: vs
termination_by structural vs => vs

def entriesWithDates : List (String × Toml) → Option (List (String × Toml))
  | [] => some []
  | (k, v) :: entries => do
    let v ← withDates v
    let entries ← entriesWithDates entries
    return (k, v) :: entries
termination_by structural entries => entries

end

end Conformance.Toml
