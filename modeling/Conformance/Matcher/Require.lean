import Conformance.Json.Reader
import Conformance.Matcher.Basic
import Conformance.Value.Json

/-!
# Conformance.Matcher.Require

Letting only conforming values through: `Matcher.require` refuses the others with
the path of their first mismatch, and `Matcher.decode` goes on to decode what has
passed into a type of the caller.
-/

namespace Conformance

/-- Why no JSON could be made or understood. -/
inductive JsonError where
  /-- A text is no JSON. -/
  | unreadable (e : Json.ReadError)
  /-- A value holds a host object. -/
  | unserializable (c : Class)
  /-- A JSON tree does not fit the type it should become. -/
  | undecodable (failure : DecodeFailure)

def JsonError.message : JsonError → String
  | unreadable e => e.message
  | unserializable c => "cannot serialize instance of " ++ c.name
  | undecodable failure => failure.message

/-- Why a value was not let through. -/
inductive Refusal where
  /-- The value does not conform; `path` is its first mismatch. -/
  | mismatch (path : String)
  /-- The value has no JSON form, or none of the type it should become. -/
  | json (e : JsonError)

namespace Refusal

def message : Refusal → String
  | mismatch path => path ++ " does not match the schema."
  | json e => "JSON error: " ++ e.message

/-- The path of the first mismatch, if that is what went wrong. -/
def path? : Refusal → Option String
  | mismatch path => some path
  | json _ => none

end Refusal

namespace Matcher

/-- Refuses a value that does not conform, with the events of the search. -/
def requireLogged (m : Matcher) (value : Value) (schema : Schema) :
    Logged (Except Refusal Unit) := do
  match ← m.search value schema with
  | none => return .ok ()
  | some first =>
    Logged.report (.rejected first.place value.kind)
    return .error (.mismatch first.place.path)

/-- Refuses a value that does not conform. -/
def require (m : Matcher) (value : Value) (schema : Schema) : Except Refusal Unit :=
  (m.requireLogged value schema).result

/-- Decodes a value by way of its JSON form, and reports if that form does not fit. -/
def decodeValue {α : Type} (value : Value) (decoder : Decoder α) : Logged (Except Refusal α) :=
  match value.toJson with
  | .error c => return .error (.json (.unserializable c))
  | .ok j => match decoder j with
    | .ok a => return .ok a
    | .error failure => do
      Logged.report (.undecodable failure)
      return .error (.json (.undecodable failure))

/-- Decodes a value that conforms, with the events of both steps. -/
def decodeLogged {α : Type} (m : Matcher) (value : Value) (schema : Schema)
    (decoder : Decoder α) : Logged (Except Refusal α) := do
  match ← m.requireLogged value schema with
  | .error e => return .error e
  | .ok () => decodeValue value decoder

/-- Decodes a value that conforms. -/
def decode {α : Type} (m : Matcher) (value : Value) (schema : Schema) (decoder : Decoder α) :
    Except Refusal α :=
  (m.decodeLogged value schema decoder).result

end Matcher

end Conformance
