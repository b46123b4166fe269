import Conformance.Text.Hexadecimal

/-!
# Conformance.Toml.Quoting

Writing strings in TOML in the style that needs the fewest escapes: between
double quotes if nothing is escaped, else between single quotes if that is
possible, else between three quotes of either kind, and with escapes only when
nothing else is left.
-/

namespace Conformance.Toml

/-- The greatest number of characters `c` in a row, of which `run` came just
before. -/
def longestRun (c : Char) (run : Nat) : List Char → Nat
  | [] => run
  | d :: rest => if d = c then longestRun c (run + 1) rest else max run (longestRun c 0 rest)

/-- Whether a character can only be written as an escape. -/
def needsEscape (c : Char) : Bool :=
  c = '\x7f' || (c.toNat < 0x20 && c ≠ '\t' && c ≠ '\n')

/-- The last hexadecimal digit of a number, in upper case. -/
def upperDigit (n : Nat) : Char := (Text.hexDigit n).toUpper

/-- A character other than a quote between double quotes. -/
def escapeChar (keepNewline : Bool) (c : Char) : List Char :=
  if c = '\x08' then ['\\', 'b']
  else if c = '\t' then ['\\', 't']
  else if c = '\x0c' then ['\\', 'f']
  else if c = '\r' then ['\\', 'r']
  else if c = '\\' then ['\\', '\\']
  else if c = '\n' ∧ !keepNewline then ['\\', 'n']
  else if c ≠ '\n' ∧ (c.toNat < 0x20 ∨ c = '\x7f') then
    ['\\', 'u', '0', '0', upperDigit (c.toNat / 16), upperDigit c.toNat]
  else [c]

/-- The inside of a string between double quotes, on one line. -/
def escapeLine (cs : List Char) : List Char :=
  cs.flatMap fun c => if c = '"' then ['\\', '"'] else escapeChar false c

/-- The inside of a string between three double quotes. Every third quote in a
row is escaped; `run` quotes came just before. -/
def escapeBlock (run : Nat) : List Char → List Char
  | [] => []
  | c :: rest =>
    if c ≠ '"' then escapeChar true c ++ escapeBlock 0 rest
    else if run = 2 then '\\' :: '"' :: escapeBlock 0 rest
    else '"' :: escapeBlock (run + 1) rest

/-- The ways to write a string. -/
inductive Style where
  | basic
  | literal
  | basicBlock
  | literalBlock

/-- The first style that fits. -/
def Style.of (cs : List Char) : Style :=
  let controls := cs.any needsEscape
  let backslashes := cs.contains '\\'
  let newlines := cs.contains '\n'
  let single := longestRun '\'' 0 cs
  let double := longestRun '"' 0 cs
  if !controls && !backslashes && !newlines && double = 0 then .basic
  else if !controls && !newlines && single = 0 then .literal
  else if !controls && !backslashes && double ≤ 2 then .basicBlock
  else if !controls && single ≤ 2 then .literalBlock
  else if newlines then .basicBlock
  else .basic

/-- A string in the style that fits it. Blocks of several lines begin on a line
of their own. -/
def quote (s : String) : String :=
  let cs := s.toList
  let lead := if cs.contains '\n' then ['\n'] else []
  let block := List.replicate 3 '"'
  let literalBlock := List.replicate 3 '\''
  String.ofList <| match Style.of cs with
    | .basic => '"' :: (escapeLine cs ++ ['"'])
    | .literal => '\'' :: (cs ++ ['\''])
    | .basicBlock => block ++ lead ++ escapeBlock 0 cs ++ block
    | .literalBlock => literalBlock ++ lead ++ cs ++ literalBlock

end Conformance.Toml
