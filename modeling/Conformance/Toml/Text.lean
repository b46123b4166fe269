import Conformance.Text.Hexadecimal
import Conformance.Toml.Scan

/-!
# Conformance.Toml.Text

Strings and keys: the four kinds of strings, between double or single quotes, on
one line or on several, and the keys made of them or written bare. A string is
read by a machine that takes one character at a time and sees the one behind it.
-/

namespace Conformance.Toml

/-! ## Strings -/

/-- What a character inside a string means. -/
inductive TextMode where
  | plain
  /-- After a backslash. -/
  | escape
  /-- Inside `\u` or `\U`: how many digits are left, and their value so far. -/
  | hex (left value : Nat)
  /-- After a backslash and blanks: the line has to end. -/
  | lineEnd
  /-- Behind such a line: blanks and line ends are dropped. -/
  | trim
  /-- After so many quotes in a string of several lines. -/
  | quotes (n : Nat)

/-- What a character does to a string: it goes on, or it is over, with that
character or before it. The characters read are held newest first. -/
inductive TextStep where
  | next (mode : TextMode) (read : List Char)
  | closed (read : List Char)
  | closedBefore (read : List Char)
  | invalid

/-- The kind of a string, by its quote and by whether it may have several lines.
Only double quotes know escapes. -/
structure TextKind where
  quote : Char
  multiline : Bool

/-- A character with no escape before it. -/
def plainStep (kind : TextKind) (read : List Char) (c : Char) (behind : Option Char) : TextStep :=
  if c = kind.quote then
    if kind.multiline then .next (.quotes 1) read else .closed read
  else if c = '\\' ∧ kind.quote = '"' then .next .escape read
  else if c = '\n' then
    if kind.multiline then .next .plain ('\n' :: read) else .invalid
  else if c = '\r' then
    if kind.multiline ∧ behind = some '\n' then .next .plain read else .invalid
  else if isText c then .next .plain (c :: read)
  else .invalid

/-- The character after a backslash. -/
def escapeStep (kind : TextKind) (read : List Char) (c : Char) (behind : Option Char) :
    TextStep :=
  match c with
  | '"' | '\\' => .next .plain (c :: read)
  | 'b' => .next .plain ('\x08' :: read)
  | 't' => .next .plain ('\t' :: read)
  | 'n' => .next .plain ('\n' :: read)
  | 'f' => .next .plain ('\x0c' :: read)
  | 'r' => .next .plain ('\r' :: read)
  | 'u' => .next (.hex 4 0) read
  | 'U' => .next (.hex 8 0) read
  | c =>
    if !kind.multiline then .invalid
    else if c = '\n' then .next .trim read
    else if isBlank c ∨ (c = '\r' ∧ behind = some '\n') then .next .lineEnd read
    else .invalid

/-- One character of a string. -/
def textStep (kind : TextKind) (mode : TextMode) (read : List Char) (c : Char)
    (behind : Option Char) : TextStep :=
  let isReturn := c = '\r' ∧ behind = some '\n'
  match mode with
  | .plain => plainStep kind read c behind
  | .escape => escapeStep kind read c behind
  | .hex left value =>
    match Text.hexValue? c with
    | none => .invalid
    | some digit =>
      let value := 16 * value + digit
      if 1 < left then .next (.hex (left - 1) value) read
      else if value.isValidChar then .next .plain (Char.ofNat value :: read)
      else .invalid
  | .lineEnd =>
    if c = '\n' then .next .trim read
    else if isBlank c ∨ isReturn then .next .lineEnd read
    else .invalid
  | .trim =>
    if c = '\n' ∨ isBlank c ∨ isReturn then .next .trim read
    else plainStep kind read c behind
  | .quotes n =>
    if c = kind.quote then
      -- Two quotes may stand before the three that close the string.
      if n = 4 then .closed (kind.quote :: kind.quote :: read) else .next (.quotes (n + 1)) read
    else if 3 ≤ n then .closedBefore (List.replicate (n - 3) kind.quote ++ read)
    else plainStep kind (List.replicate n kind.quote ++ read) c behind

/-- Takes the rest of a string with its closing quotes. -/
def textBody (kind : TextKind) (mode : TextMode) (read : List Char) :
    List Char → Option (String × List Char)
  | [] => match mode with
    | .quotes n =>
      if 3 ≤ n then
        some (String.ofList (List.replicate (n - 3) kind.quote ++ read).reverse, [])
      else none
    | _ => none
  | c :: rest => match textStep kind mode read c rest.head? with
    | .next mode read => textBody kind mode read rest
    | .closed read => some (String.ofList read.reverse, rest)
    | .closedBefore read => some (String.ofList read.reverse, c :: rest)
    | .invalid => none

/-- Takes a string on one line, from its first quote on. -/
def scanLineText : Scan String
  | c :: rest => if c = '"' ∨ c = '\'' then textBody ⟨c, false⟩ .plain [] rest else none
  | [] => none

/-- Takes a string of any kind. A line end right after three opening quotes does
not belong to it. -/
def scanText : Scan String
  | a :: b :: c :: rest =>
    if (a = '"' ∨ a = '\'') ∧ b = a ∧ c = a then
      let body := match rest with
        | '\n' :: rest => rest
        | '\r' :: '\n' :: rest => rest
        | rest => rest
      textBody ⟨a, true⟩ .plain [] body
    else scanLineText (a :: b :: c :: rest)
  | cs => scanLineText cs

/-! ## Keys -/

/-- Whether a key with this character needs no quotes. -/
def isBareKeyChar (c : Char) : Bool := c.isAlphanum || c = '_' || c = '-'

/-- Takes one key, with the blanks around it. -/
def scanKey : Scan String := do
  skipBlanks
  let key ← do
    match ← Scan.peek with
    | some '"' | some '\'' => scanLineText
    | _ =>
      let cs ← Scan.takeWhile isBareKeyChar
      if cs.isEmpty then failure else pure (String.ofList cs)
  skipBlanks
  return key

/-- Nesting as deep as this is refused, of values and of keys. -/
def nestingLimit : Nat := 80

/-- Takes keys with dots between them. -/
def scanPath : Scan (List String) := do
  let keys ← Scan.separated '.' scanKey
  if keys.length < nestingLimit then return keys else failure

end Conformance.Toml
