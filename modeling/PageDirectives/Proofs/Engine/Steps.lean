import PageDirectives.Directive.Engine
import PageDirectives.Proofs.Directive.Registry
/-!
A run of the engine is put together from single replacements. A property of steps that one step
after another keeps, and that steps without a handler have, holds of the whole run as soon as it
holds of the replacement of every occurrence that a scan finds. What is to be shown of all runs is
shown of one replacement.
-/
namespace PageDirectives

open Directive

@[simp] theorem Trace.notes_append (s t : Trace) : (s ++ t).notes = s.notes ++ t.notes := rfl

@[simp] theorem Trace.calls_append (s t : Trace) : (s ++ t).calls = s.calls ++ t.calls := rfl

namespace Traced

variable {α β : Type} {x : Traced α} {f : α → Traced β}

theorem bind_of_ok {a : α} (h : x.result = .ok a) :
    (x >>= f).trace = x.trace ++ (f a).trace ∧ (x >>= f).result = (f a).result := by
  change (Traced.bind x f).trace = _ ∧ (Traced.bind x f).result = _
  rw [Traced.bind, h]
  exact ⟨rfl, rfl⟩

theorem bind_of_error {e : NumberError} (h : x.result = .error e) :
    (x >>= f).trace = x.trace ∧ (x >>= f).result = .error e := by
  change (Traced.bind x f).trace = _ ∧ (Traced.bind x f).result = _
  rw [Traced.bind, h]
  exact ⟨rfl, rfl⟩

theorem result_bind : (x >>= f).result = x.result >>= fun a => (f a).result := by
  cases h : x.result with
  | error e => exact (bind_of_error h).2
  | ok a => exact (bind_of_ok h).2

theorem mem_calls_bind {c : Call} (hc : c ∈ x.trace.calls) : c ∈ (x >>= f).trace.calls := by
  cases h : x.result with
  | error e => rwa [(bind_of_error h).1]
  | ok a =>
    rw [(bind_of_ok h).1, Trace.calls_append]
    exact List.mem_append_left _ hc

theorem mem_calls_bind_of_ok {a : α} (h : x.result = .ok a) {c : Call}
    (hc : c ∈ (f a).trace.calls) : c ∈ (x >>= f).trace.calls := by
  rw [(bind_of_ok h).1, Trace.calls_append]
  exact List.mem_append_right _ hc

end Traced

/-- A property that plain results have and log lines that report no error, and that one step after
another keeps. -/
structure Traced.Composable (P : ∀ α : Type, Traced α → Prop) : Prop where
  pure : ∀ {α : Type} (a : α), P α (Pure.pure a)
  log : ∀ notes : List Note, (∀ note ∈ notes, note.severity ≠ .error) → P Unit (log notes)
  bind : ∀ {α β : Type} {x : Traced α} {f : α → Traced β}, P α x → (∀ a, P β (f a)) →
    P β (x >>= f)

theorem Traced.Composable.foldlM {P : ∀ α : Type, Traced α → Prop} (h : Composable P)
    {α β : Type} {f : β → α → Traced β} {as : List α} (step : ∀ a ∈ as, ∀ b, P β (f b a)) (b : β) :
    P β (as.foldlM f b) := by
  induction as generalizing b with
  | nil => exact h.pure b
  | cons a as ih =>
    rw [List.foldlM_cons]
    have others := ih fun x hx => step x (List.mem_cons_of_mem a hx)
    exact h.bind (step a List.mem_cons_self b) others

namespace Engine

/-- The log lines of a step that report an error. -/
def errorNotes (notes : List Note) : List Note := notes.filter (·.severity = .error)

/-- What is logged when a handler fails. -/
def failureNote (r : Registration) (message : Text) : Note :=
  .diagnostic .error ("Error in ::" ++ r.name ++ " handler: " ++ message)

/-- What is logged for an occurrence, if the handler fails on it and the failure has a wording. -/
def failureNote? (r : Registration) (o : Occurrence) : Option Note :=
  match r.handler.run o with
  | .error failure => failure.message.toOption.map (failureNote r)
  | .ok _ => none

/-- A replacement makes one call, reports an error if the handler fails, and has no result if the
failure has no wording or the answer no text. -/
theorem replacement_eq (r : Registration) (o : Occurrence) :
    (replacement r o).trace.calls = [⟨r.handler.origin, o⟩] ∧
      errorNotes (replacement r o).trace.notes = (failureNote? r o).toList ∧
      (replacement r o).result =
        match r.handler.run o with
        | .error failure => failure.message.map fun _ => o.raw
        | .ok .null => .ok []
        | .ok v => v.display := by
  rw [failureNote?, replacement]
  cases r.handler.run o with
  | error failure =>
    dsimp only
    cases failure.message <;> exact ⟨rfl, rfl, rfl⟩
  | ok v => cases v <;> exact ⟨rfl, rfl, rfl⟩

variable {P : ∀ α : Type, Traced α → Prop} {r : Registration} {page : Entries}

theorem replacements_induction (h : Traced.Composable P) {os : List Occurrence}
    (each : ∀ o ∈ os, P Text (replacement r o)) : P (List Text) (replacements r os) := by
  induction os with
  | nil => exact h.pure []
  | cons o os ih =>
    have others := ih fun p hp => each p (List.mem_cons_of_mem o hp)
    exact h.bind (each o List.mem_cons_self) fun _ => h.bind others fun _ => h.pure _

theorem applyForm_induction (h : Traced.Composable P) {form : Form} {text : Text}
    (each : ∀ s ∈ scan text r.name form page, P Text (replacement r s.found)) :
    P Text (applyForm r page text form) := by
  rw [applyForm]
  generalize scan text r.name form page = hits at each
  cases hits with
  | nil => exact h.pure text
  | cons hit hits =>
    refine h.bind (h.log _ (by simp [matchNote, Note.severity])) fun _ => ?_
    refine h.bind (replacements_induction h ?_) fun _ => h.pure _
    exact List.forall_mem_map.2 each

theorem settle_induction (h : Traced.Composable P) (policy : LeftoverPolicy) (text : Text) :
    P Text (settle policy text) := by
  refine h.bind (h.log _ (List.forall_mem_map.2 fun name _ => ?_)) fun _ => ?_
  · cases policy <;> simp [leftoverNote, Note.severity]
  · cases policy with
    | warn => exact h.pure _
    | strip => exact h.pure _

/-- What holds of every replacement of what a scan finds under a registered name holds of a run. -/
theorem process_induction (h : Traced.Composable P) {engine : Engine}
    (each : ∀ r ∈ engine.registry.registrations, ∀ form text,
      ∀ s ∈ scan text r.name form page, P Text (replacement r s.found)) (text : Text) :
    P Text (process engine page text) := by
  refine h.bind (h.foldlM (fun r hr text => ?_) text) fun text => settle_induction h _ text
  refine h.foldlM (fun form _ text => ?_) text
  exact applyForm_induction h (each r (Registry.mem_sorted.1 hr) form text)

end Engine
end PageDirectives
