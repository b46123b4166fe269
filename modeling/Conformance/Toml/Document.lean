import Conformance.Toml.DateTable
import Conformance.Toml.Text

/-!
# Conformance.Toml.Document

Whole TOML documents. A document is first read as a list of statements, and the
statements are then put together to one table.

Where a table came from decides what may be added to it: a table with a header of
its own, or made by the header of a table inside it, takes no dotted keys from
elsewhere; a table made by dotted keys takes no header; and nothing is ever
defined twice.
-/

namespace Conformance.Toml

/-! ## Tables in the making -/

/-- How a table came to be. -/
inductive Origin where
  /-- It has a header, or it is the whole document or an inline table. -/
  | header
  /-- A header names a table inside it. -/
  | implied
  /-- A dotted key leads through it. -/
  | dotted
  deriving DecidableEq

/-- Part of a document in the making. -/
inductive Node where
  | value (v : Toml)
  | table (origin : Origin) (entries : List (String × Node))
  /-- An array of tables, its last table apart from the earlier ones, of which
  the newest comes first. -/
  | tables (last : List (String × Node)) (earlier : List (List (String × Node)))

abbrev Entries := List (String × Node)

namespace Node

mutual

/-- The finished value. -/
def toToml : Node → Toml
  | value v => v
  | table _ entries => .table (entriesToToml entries)
  | tables last earlier =>
    .array ((Toml.table (entriesToToml last) :: tablesToToml earlier).reverse)
termination_by structural n => n

def entriesToToml : List (String × Node) → List (String × Toml)
  | [] => []
  | (k, n) :: entries => (k, n.toToml) :: entriesToToml entries
termination_by structural entries => entries

def tablesToToml : List (List (String × Node)) → List Toml
  | [] => []
  | entries :: others => .table (entriesToToml entries) :: tablesToToml others
termination_by structural tables => tables

end

end Node

/-- Sets an entry, in place if the key is there and at the end if not. -/
def setEntry (key : String) (node : Node) : Entries → Entries
  | [] => [(key, node)]
  | (k, n) :: entries =>
    if k = key then (k, node) :: entries else (k, n) :: setEntry key node entries

/-- Changes the table that some keys lead to, making the tables on the way that
are missing. Dotted keys pass through no table that has a header. -/
def within (isDotted : Bool) (change : Origin → Entries → Option Entries) :
    List String → Origin → Entries → Option Entries
  | [], origin, entries => change origin entries
  | key :: keys, _, entries => do
    let node := (entries.lookup key).getD (.table (if isDotted then .dotted else .implied) [])
    match node with
    | .value _ => none
    | .table origin inner =>
      if isDotted ∧ origin = .header then none
      else
        let inner ← within isDotted change keys origin inner
        return setEntry key (.table origin inner) entries
    | .tables last earlier =>
      let last ← within isDotted change keys .header last
      return setEntry key (.tables last earlier) entries

/-- Adds an entry under dotted keys to a table. -/
def addEntry (keys : List String) (v : Toml) (origin : Origin) (entries : Entries) :
    Option Entries := do
  let key ← keys.getLast?
  let isDirect := keys.length == 1
  let add (origin : Origin) (entries : Entries) : Option Entries :=
    -- A table is either written out in one place or collected from dotted keys.
    if (origin == .dotted) == isDirect || (entries.lookup key).isSome then none
    else some (entries ++ [(key, .value v)])
  within true add keys.dropLast origin entries

/-- Opens the table that a header names. Its place is where the header stands, even
if a table inside it came earlier. -/
def openTable (keys : List String) (document : Entries) : Option Entries := do
  let key ← keys.getLast?
  let add (_ : Origin) (entries : Entries) : Option Entries :=
    match entries.lookup key with
    | none => some (setEntry key (.table .header []) entries)
    | some (.table .implied inner) =>
      some (entries.filter (·.1 ≠ key) ++ [(key, .table .header inner)])
    | some _ => none
  within false add keys.dropLast .header document

/-- Opens another table of the array of tables that a header names. -/
def openArrayTable (keys : List String) (document : Entries) : Option Entries := do
  let key ← keys.getLast?
  let add (_ : Origin) (entries : Entries) : Option Entries :=
    match entries.lookup key with
    | none => some (setEntry key (.tables [] []) entries)
    | some (.tables last earlier) => some (setEntry key (.tables [] (last :: earlier)) entries)
    | some _ => none
  within false add keys.dropLast .header document

/-- The table of some entries under dotted keys. -/
def tableOf? (entries : List (List String × Toml)) : Option Toml :=
  let table? := entries.foldl
    (fun table? entry => table?.bind (addEntry entry.1 entry.2 .header)) (some [])
  table?.map fun table => Node.toToml (.table .header table)

/-! ## Values -/

/-- Takes a key, an equals sign and what `value` reads. -/
def scanEntry (value : Scan Toml) : Scan (List String × Toml) := do
  let keys ← scanPath
  Scan.expect '='
  skipBlanks
  let v ← value
  skipBlanks
  return (keys, v)

/-- Takes an array, after its bracket. A comma may stand behind the last item. -/
def scanItems (value : Scan Toml) : Scan (List Toml) :=
  Scan.repeated do
    skipFiller
    if ← Scan.accept ']' then return none
    let v ← value
    skipFiller
    unless ← Scan.accept ',' do
      unless (← Scan.peek) = some ']' do failure
    return some v

/-- Takes an inline table, after its brace. -/
def scanInlineTable (value : Scan Toml) : Scan Toml := do
  skipBlanks
  if ← Scan.accept '\x7d' then return .table []
  let entries ← Scan.separated ',' (scanEntry value)
  Scan.expect '\x7d'
  liftM (tableOf? entries)

/-- Takes a value with containers nested to the given depth at most. -/
def scanValue : Nat → Scan Toml
  | 0 => do
    match ← Scan.peek with
    | some '"' | some '\'' => return .string (← scanText)
    | _ => scanScalar
  | depth + 1 => do
    if ← Scan.accept '[' then return .array (← scanItems (scanValue depth))
    if ← Scan.accept '\x7b' then return ← scanInlineTable (scanValue depth)
    match ← Scan.peek with
    | some '"' | some '\'' => return .string (← scanText)
    | _ => scanScalar

/-! ## Statements -/

/-- One statement of a document. -/
inductive Statement where
  | header (keys : List String)
  | arrayHeader (keys : List String)
  | entry (keys : List String) (v : Toml)

/-- Takes one statement with its line end. -/
def scanStatement : Scan Statement := do
  let statement ← do
    if ← Scan.accept '[' then
      if ← Scan.accept '[' then
        let keys ← scanPath
        Scan.expect ']'
        Scan.expect ']'
        pure (.arrayHeader keys)
      else
        let keys ← scanPath
        Scan.expect ']'
        pure (.header keys)
    else
      let (keys, v) ← scanEntry (scanValue (nestingLimit - 1))
      pure (.entry keys v)
  endLine
  return statement

/-- Takes all statements of a document. -/
def scanDocument : Scan (List Statement) :=
  Scan.repeated do
    skipFiller
    match ← Scan.peek with
    | none => return none
    | some _ => some <$> scanStatement

/-! ## Putting statements together -/

/-- A document in the making, and the keys of the header in force. -/
structure Draft where
  entries : Entries := []
  current : List String := []

/-- Carries out one statement. -/
def Draft.apply (d : Draft) : Statement → Option Draft
  | .header keys => (openTable keys d.entries).map (⟨·, keys⟩)
  | .arrayHeader keys => (openArrayTable keys d.entries).map (⟨·, keys⟩)
  | .entry keys v =>
    (within false (addEntry keys v) d.current .header d.entries).map (⟨·, d.current⟩)

/-- The table of a document, with its entries in order, if the text is TOML and the
document is no date. A byte order mark at the front is ignored. -/
def read? (text : String) : Option (List (String × Toml)) := do
  let cs := match text.toList with
    | '\uFEFF' :: cs => cs
    | cs => cs
  let (statements, _) ← scanDocument cs
  let draft ← statements.foldlM Draft.apply {}
  match ← withDates (.table (Node.entriesToToml draft.entries)) with
  | .table entries => return entries
  | _ => failure

end Conformance.Toml
