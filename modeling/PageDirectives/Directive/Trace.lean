import PageDirectives.Directive.Registry
import PageDirectives.Journal
/-!
Steps that leave a trace: what they log, which occurrences they hand to handlers, and a result or
the reason why there is none. The trace of a sequence of steps is that of its parts, in order.
-/
namespace PageDirectives

/-- An occurrence handed to a handler. -/
structure Call where
  origin : Origin
  occurrence : Directive.Occurrence

/-- What steps leave behind. -/
structure Trace where
  notes : List Note := []
  calls : List Call := []

/-- One trace after another. -/
def Trace.append (s t : Trace) : Trace := ⟨s.notes ++ t.notes, s.calls ++ t.calls⟩

instance : Append Trace := ⟨Trace.append⟩

/-- The result of a step with its trace. -/
structure Traced (α : Type) where
  trace : Trace
  result : Except NumberError α

namespace Traced

/-- A result without a trace. -/
def pure {α : Type} (a : α) : Traced α := ⟨{}, .ok a⟩

/-- One step after another; a step without a result is the last. -/
def bind {α β : Type} (x : Traced α) (f : α → Traced β) : Traced β :=
  match x.result with
  | .ok a => ⟨x.trace ++ (f a).trace, (f a).result⟩
  | .error e => ⟨x.trace, .error e⟩

instance : Monad Traced where
  pure := Traced.pure
  bind := Traced.bind

/-- A step that only logs. -/
def log (notes : List Note) : Traced Unit := ⟨{ notes }, .ok ()⟩

/-- A step that only records a call. -/
def call (c : Call) : Traced Unit := ⟨{ calls := [c] }, .ok ()⟩

/-- A step that is a plain result. -/
def ofExcept {α : Type} (x : Except NumberError α) : Traced α := ⟨{}, x⟩

end Traced
end PageDirectives
