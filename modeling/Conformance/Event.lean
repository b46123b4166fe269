import Conformance.Json.Decoder
import Conformance.Mismatch

/-!
# Conformance.Event

What the matcher reports while it works, and results that come with such a
report. `Logged` is a monad: doing one thing after another puts the reports one
after the other, so a search that stops early reports no more than it has seen.
-/

namespace Conformance

/-- Something worth reporting. -/
inductive Event where
  /-- A place was found where a value fails its schema. -/
  | mismatch (m : Mismatch)
  /-- A value was refused because of its first mismatch. -/
  | rejected (place : Place) (kind : Kind)
  /-- A conforming value could not be decoded. -/
  | undecodable (failure : DecodeFailure)

/-- How much an event matters. -/
inductive Level where
  | trace
  | debug
  deriving DecidableEq, Repr

def Level.text : Level → String
  | trace => "TRACE"
  | debug => "DEBUG"

namespace Event

def level : Event → Level
  | mismatch _ => .trace
  | rejected .. | undecodable _ => .debug

def message : Event → String
  | mismatch _ => "schema mismatch"
  | rejected .. => "value rejected by schema"
  | undecodable _ => "conforming value did not deserialize"

/-- The details of an event, as names and texts. -/
def details : Event → List (String × String)
  | mismatch m =>
    [("path", m.place.path), ("expected", m.expected.text), ("found", m.found.text)]
  | rejected place kind => [("path", place.path), ("kind", kind.text)]
  | undecodable failure => [("error", failure.message)]

end Event

/-- A result, and what was reported on the way to it. -/
structure Logged (α : Type) where
  result : α
  events : List Event := []

namespace Logged

variable {α β : Type}

instance : Monad Logged where
  pure a := ⟨a, []⟩
  bind x f := ⟨(f x.result).result, x.events ++ (f x.result).events⟩

@[simp] theorem result_pure (a : α) : (pure a : Logged α).result = a := rfl

@[simp] theorem events_pure (a : α) : (pure a : Logged α).events = [] := rfl

/-- Reports make no difference to results. -/
@[simp] theorem result_bind (x : Logged α) (f : α → Logged β) :
    (x >>= f).result = (f x.result).result := rfl

/-- What comes first is reported first. -/
@[simp] theorem events_bind (x : Logged α) (f : α → Logged β) :
    (x >>= f).events = x.events ++ (f x.result).events := rfl

/-- Reports one event. -/
def report (e : Event) : Logged Unit := ⟨(), [e]⟩

end Logged

end Conformance
