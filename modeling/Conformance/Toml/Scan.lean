/-!
# Conformance.Toml.Scan

Scanning the characters of a text from the front. A scanner answers with what it
has read and leaves the rest, or fails; scanners are put together in `do` blocks.
Repetition ends because every round has to leave less text than it was given.
-/

namespace Conformance.Toml

/-- A scanner: takes characters from the front of a text, or fails. -/
abbrev Scan := StateT (List Char) Option

namespace Scan

variable {α : Type}

/-- The next character, which stays where it is. -/
def peek : Scan (Option Char) := fun cs => some (cs.head?, cs)

/-- Takes the characters at the front that satisfy `p`. -/
def takeWhile (p : Char → Bool) : Scan (List Char) :=
  fun cs => some (cs.takeWhile p, cs.dropWhile p)

/-- Takes the character `c`, which has to come next. -/
def expect (c : Char) : Scan Unit
  | [] => none
  | d :: rest => if d = c then some ((), rest) else none

/-- Takes the character `c` if it comes next. -/
def accept (c : Char) : Scan Bool
  | [] => some (false, [])
  | d :: rest => if d = c then some (true, rest) else some (false, d :: rest)

/-- Runs a step until it answers with nothing. Fails if a step before that takes
no characters. -/
def repeated (step : Scan (Option α)) (cs : List Char) : Option (List α × List Char) :=
  match step cs with
  | none => none
  | some (none, rest) => some ([], rest)
  | some (some a, rest) =>
    if _h : rest.length < cs.length then
      (repeated step rest).map fun result => (a :: result.1, result.2)
    else none
termination_by cs.length

/-- One or more, with a separator between them. -/
def separated (separator : Char) (item : Scan α) : Scan (List α) := do
  let first ← item
  let others ← repeated do
    if ← accept separator then some <$> item else return none
  return first :: others

end Scan

/-! ## Blanks, line ends and comments -/

def isBlank (c : Char) : Bool := c = ' ' || c = '\t'

/-- Whether a character may stand in a comment or between quotes: tabs and
everything that is no control. -/
def isText (c : Char) : Bool := c = '\t' || (0x20 ≤ c.toNat && c ≠ '\x7f')

def skipBlanks : Scan Unit := do
  let _ ← Scan.takeWhile isBlank

/-- Takes blanks, line ends and comments, as many as there are. -/
def fillerFrom (inComment : Bool) : List Char → Option (List Char)
  | [] => some []
  | c :: rest =>
    if c = '\n' then fillerFrom false rest
    else if c = '\r' then
      if rest.head? = some '\n' then fillerFrom false rest else none
    else if inComment then
      if isText c then fillerFrom true rest else none
    else if isBlank c then fillerFrom false rest
    else if c = '#' then fillerFrom true rest
    else some (c :: rest)

def skipFiller : Scan Unit := fun cs => (fillerFrom false cs).map fun rest => ((), rest)

/-- Takes the end of a line, with blanks and a comment before it. -/
def endLine : Scan Unit := do
  skipBlanks
  match ← Scan.peek with
  | some '#' | some '\n' | some '\r' => skipFiller
  | none => return ()
  | some _ => failure

end Conformance.Toml
