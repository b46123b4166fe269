import Conformance.Json.Fault
import Conformance.Json.Numeral
import Conformance.Text.Hexadecimal

/-!
# Conformance.Json.Reader

Reading JSON texts, strictly: a machine that takes one character at a time. It
holds the containers that are open and a mode that says what may come next. A
character that may not come stops it with a cause; a text that ends while
something is still open is incomplete. Since the machine moves once for every
character, reading is a fold over the text.

Of two properties with one key the later counts, and containers nest to a limited
depth.
-/

namespace Conformance.Json

/-! ## The machine -/

/-- A container that is open. Array items are held newest first. -/
inductive Frame where
  | array (items : List Json)
  | object (properties : List (String × Json))
  /-- An object whose property `key` is being read. -/
  | entry (properties : List (String × Json)) (key : String)

/-- What may come next. The characters of strings, numbers and escapes are held
newest first. -/
inductive Mode where
  /-- A value. -/
  | value
  /-- A value, or the end of an empty array. -/
  | firstItem
  /-- A value after a comma. -/
  | nextItem
  /-- A key, or the end of an empty object. -/
  | firstKey
  /-- A key after a comma. -/
  | nextKey
  | colon
  /-- A comma or the end of the innermost container. -/
  | afterValue
  /-- The rest of `null`, `true` or `false`. -/
  | word (rest : List Char) (meaning : Json)
  | number (part : NumberPart) (read : List Char)
  | string (read : List Char)
  | escape (read : List Char)
  /-- The digits after `\u`, and the high surrogate before it if there is one. -/
  | hex (read : List Char) (high : Option Nat) (digits : List Char)
  /-- The backslash that has to follow a high surrogate. -/
  | pairBackslash (read : List Char) (high : Nat)
  /-- The `u` that has to follow that backslash. -/
  | pairMark (read : List Char) (high : Nat)
  /-- Nothing but blanks. -/
  | done (result : Json)

/-- The machine: the open containers, innermost first, and the mode. -/
structure Machine where
  frames : List Frame
  mode : Mode

/-- Goes on after a value has been read. -/
def complete (frames : List Frame) (j : Json) : Machine :=
  match frames with
  | [] => ⟨[], .done j⟩
  | .array items :: outer => ⟨.array (j :: items) :: outer, .afterValue⟩
  | .entry properties key :: outer =>
    ⟨.object (Properties.insert key j properties) :: outer, .afterValue⟩
  | .object properties :: outer => ⟨.object properties :: outer, .afterValue⟩

/-- Goes on after a string has been read, which is a key when an object waits
for one. -/
def completeString (frames : List Frame) (read : List Char) : Machine :=
  let s := String.ofList read.reverse
  match frames with
  | .object properties :: outer => ⟨.entry properties s :: outer, .colon⟩
  | frames => complete frames (string s)

/-- Closes the innermost container. -/
def close (frames : List Frame) : Machine :=
  match frames with
  | .array items :: outer => complete outer (array items.reverse)
  | .object properties :: outer => complete outer (object properties)
  | frames => ⟨frames, .afterValue⟩

/-- Opens a container within the nesting limit. -/
def openFrame (limit : Nat) (frames : List Frame) (frame : Frame) (mode : Mode) :
    Except Fault Machine :=
  if frames.length + 1 < limit then .ok ⟨frame :: frames, mode⟩ else .error .tooDeep

def isBlank (c : Char) : Bool := c = ' ' || c = '\n' || c = '\t' || c = '\r'

/-- Begins a value with the character `c`. -/
def beginValue (limit : Nat) (frames : List Frame) (c : Char) : Except Fault Machine :=
  match c with
  | 'n' => .ok ⟨frames, .word ['u', 'l', 'l'] null⟩
  | 't' => .ok ⟨frames, .word ['r', 'u', 'e'] (bool true)⟩
  | 'f' => .ok ⟨frames, .word ['a', 'l', 's', 'e'] (bool false)⟩
  | '"' => .ok ⟨frames, .string []⟩
  | '[' => openFrame limit frames (.array []) .firstItem
  | '\x7b' => openFrame limit frames (.object []) .firstKey
  | '-' => .ok ⟨frames, .number .sign ['-']⟩
  | '0' => .ok ⟨frames, .number .zero ['0']⟩
  | c => if c.isDigit then .ok ⟨frames, .number .whole [c]⟩ else .error .expectedValue

/-- Takes the character after a value. -/
def continueContainer (frames : List Frame) (c : Char) : Except Fault Machine :=
  match frames with
  | .array items :: outer =>
    if c = ',' then .ok ⟨.array items :: outer, .nextItem⟩
    else if c = ']' then .ok (close frames)
    else .error .expectedCommaOrBracket
  | _ =>
    if c = ',' then .ok ⟨frames, .nextKey⟩
    else if c = '\x7d' then .ok (close frames)
    else .error .expectedCommaOrBrace

/-- Takes a character where nothing is half read: between the tokens. -/
def stepBetween (limit : Nat) (m : Machine) (c : Char) : Except Fault Machine :=
  if isBlank c then .ok m
  else match m.mode with
    | .firstItem => if c = ']' then .ok (close m.frames) else beginValue limit m.frames c
    | .nextItem => if c = ']' then .error .trailingComma else beginValue limit m.frames c
    | .firstKey =>
      if c = '\x7d' then .ok (close m.frames)
      else if c = '"' then .ok ⟨m.frames, .string []⟩
      else .error .expectedKey
    | .nextKey =>
      if c = '\x7d' then .error .trailingComma
      else if c = '"' then .ok ⟨m.frames, .string []⟩
      else .error .expectedKey
    | .colon => if c = ':' then .ok ⟨m.frames, .value⟩ else .error .expectedColon
    | .afterValue => continueContainer m.frames c
    | .done _ => .error .trailingCharacters
    | _ => beginValue limit m.frames c

/-- Takes the character after a backslash. -/
def stepEscape (frames : List Frame) (read : List Char) (c : Char) : Except Fault Machine :=
  let char (d : Char) : Except Fault Machine := .ok ⟨frames, .string (d :: read)⟩
  match c with
  | '"' | '\\' | '/' => char c
  | 'b' => char '\x08'
  | 'f' => char '\x0c'
  | 'n' => char '\n'
  | 'r' => char '\r'
  | 't' => char '\t'
  | 'u' => .ok ⟨frames, .hex read none []⟩
  | _ => .error .invalidEscape

/-- The value of a run of hexadecimal digits. -/
def hexNumber? (cs : List Char) : Option Nat :=
  cs.foldl (fun n c => do return 16 * (← n) + (← Text.hexValue? c)) (some 0)

/-- Goes on once the four places after `\u` are read: a character, a high
surrogate, or the low one that completes a pair. -/
def completeHex (frames : List Frame) (read : List Char) (high : Option Nat)
    (digits : List Char) : Except Fault Machine :=
  match hexNumber? digits.reverse, high with
  | none, _ => .error .invalidEscape
  | some n, none =>
    if 0xDC00 ≤ n ∧ n ≤ 0xDFFF then .error .loneSurrogate
    else if 0xD800 ≤ n ∧ n ≤ 0xDBFF then .ok ⟨frames, .pairBackslash read n⟩
    else .ok ⟨frames, .string (Char.ofNat n :: read)⟩
  | some n, some high =>
    if 0xDC00 ≤ n ∧ n ≤ 0xDFFF then
      let code := (high - 0xD800) * 0x400 + (n - 0xDC00) + 0x10000
      .ok ⟨frames, .string (Char.ofNat code :: read)⟩
    else .error .loneSurrogate

/-- The bytes of some characters. -/
def byteLength (cs : List Char) : Nat := cs.foldl (fun n c => n + c.utf8Size) 0

/-- Takes one character. -/
def step (limit : Nat) (m : Machine) (c : Char) : Except Fault Machine :=
  match m.mode with
  | .word (expected :: rest) meaning =>
    if c ≠ expected then .error .expectedWord
    else if rest.isEmpty then .ok (complete m.frames meaning)
    else .ok ⟨m.frames, .word rest meaning⟩
  | .number part read =>
    match part.next? c with
    | some part => .ok ⟨m.frames, .number part (c :: read)⟩
    | none =>
      -- The character is the first after the number.
      if !part.isComplete || c.isDigit then .error .invalidNumber
      else match numberOf? read.reverse with
        | some j => stepBetween limit (complete m.frames j) c
        | none => .error .numberOutOfRange
  | .string read =>
    if c = '"' then .ok (completeString m.frames read)
    else if c = '\\' then .ok ⟨m.frames, .escape read⟩
    else if c.toNat < 0x20 then .error .controlCharacter
    else .ok ⟨m.frames, .string (c :: read)⟩
  | .escape read => stepEscape m.frames read c
  | .hex read high digits =>
    let digits := c :: digits
    -- Four bytes are taken before any of them is looked at.
    if byteLength digits < 4 then .ok ⟨m.frames, .hex read high digits⟩
    else completeHex m.frames read high digits
  | .pairBackslash read high =>
    if c = '\\' then .ok ⟨m.frames, .pairMark read high⟩ else .error .brokenSurrogatePair
  | .pairMark read high =>
    if c = 'u' then .ok ⟨m.frames, .hex read (some high) []⟩ else .error .brokenSurrogatePair
  | _ => stepBetween limit m c

/-- The fault of a text that ends where more was needed. -/
def endFault (m : Machine) : Fault :=
  match m.mode with
  | .string _ | .escape _ | .hex .. | .pairBackslash .. | .pairMark .. => .endInString
  | .firstItem => .endInArray
  | .firstKey | .colon => .endInObject
  | .afterValue => match m.frames with
    | .array _ :: _ => .endInArray
    | _ => .endInObject
  | _ => .endInValue

/-- The result at the end of the text. A number at the very end ends there. -/
def finish (m : Machine) : Except Fault Json :=
  let settled : Except Fault Machine := match m.mode with
    | .number part read =>
      if !part.isComplete then .error .endInValue
      else match numberOf? read.reverse with
        | some j => .ok (complete m.frames j)
        | none => .error .numberOutOfRange
    | _ => .ok m
  settled.bind fun m => match m.mode with
    | .done j => .ok j
    | _ => .error (endFault m)

/-- Runs the machine over the rest of a text. -/
def run (limit : Nat) (m : Machine) (position : TextPosition) :
    List Char → Except ReadError Json
  | [] => (finish m).mapError (⟨·, position⟩)
  | c :: rest =>
    let position := position.advance c
    match step limit m c with
    | .error fault => .error ⟨fault, position⟩
    | .ok m => run limit m position rest

/-- Containers nested as deep as this are refused. -/
def depthLimit : Nat := 128

/-- The JSON tree that a text denotes. -/
def read (text : String) : Except ReadError Json :=
  run depthLimit ⟨[], .value⟩ {} text.toList

end Conformance.Json
