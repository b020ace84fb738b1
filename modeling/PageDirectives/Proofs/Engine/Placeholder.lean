import PageDirectives.Proofs.Engine.Nesting
/-!
Handlers that answer with a placeholder where they fail. Exchanging all handlers of an engine for
those that do changes neither names nor forms nor the order in which they run, and no answer that is
given anyway.
-/
namespace PageDirectives

open Directive

namespace Handler

/-- The handler, answering with a text where it fails. -/
def orPlaceholder (text : Text) (h : Handler) : Handler where
  origin := h.origin
  run o :=
    match h.run o with
    | .error _ => .ok (.text text)
    | .ok v => .ok v

variable {h : Handler} {o : Occurrence} {text : Text}

theorem run_orPlaceholder_of_ok {v : Value} (run : h.run o = .ok v) :
    (h.orPlaceholder text).run o = .ok v := by
  simp only [orPlaceholder, run]

theorem run_orPlaceholder_of_error {failure : Failure} (fails : h.run o = .error failure) :
    (h.orPlaceholder text).run o = .ok (.text text) := by
  simp only [orPlaceholder, fails]

theorem answer?_orPlaceholder {answer : Text} (given : h.answer? o = some answer) :
    (h.orPlaceholder text).answer? o = some answer := by
  rw [answer?] at given
  cases run : h.run o with
  | error failure => simp [run] at given
  | ok v =>
    rw [run] at given
    rw [answer?, run_orPlaceholder_of_ok run]
    exact given

theorem answer?_orPlaceholder_of_error {failure : Failure} (fails : h.run o = .error failure) :
    (h.orPlaceholder text).answer? o = some text := by
  rw [answer?, run_orPlaceholder_of_error fails]
  rfl

end Handler

def Registration.orPlaceholder (text : Text) (r : Registration) : Registration :=
  { r with handler := r.handler.orPlaceholder text }

namespace Registry

def orPlaceholder (text : Text) (registry : Registry) : Registry :=
  { registry with registrations := registry.registrations.map (·.orPlaceholder text) }

variable {registry : Registry} {text : Text} {o : Occurrence}

theorem sorted_orPlaceholder :
    (registry.orPlaceholder text).sorted = registry.sorted.map (·.orPlaceholder text) := by
  rw [sorted, sorted, orPlaceholder]
  exact (List.map_mergeSort (f := Registration.orPlaceholder text) fun _ _ _ _ => rfl).symm

theorem map_name_orPlaceholder (registrations : List Registration) :
    (registrations.map (·.orPlaceholder text)).map (·.name) = registrations.map (·.name) := by
  rw [List.map_map]
  rfl

theorem WellFormed.orPlaceholder (wf : registry.WellFormed) :
    (registry.orPlaceholder text).WellFormed where
  isName := List.forall_mem_map.2 wf.isName
  notReserved := List.forall_mem_map.2 wf.notReserved
  distinct := by
    rw [Registry.orPlaceholder, map_name_orPlaceholder]
    exact wf.distinct

theorem AnswersQuietly.orPlaceholder (h : registry.AnswersQuietly o) :
    (registry.orPlaceholder text).AnswersQuietly o := by
  obtain ⟨r, hr, name, answer, given, quiet⟩ := h
  exact ⟨_, List.mem_map_of_mem hr, name, answer, Handler.answer?_orPlaceholder given, quiet⟩

theorem WellFormed.outcome_orPlaceholder (wf : registry.WellFormed)
    (h : registry.AnswersQuietly o) :
    (registry.orPlaceholder text).outcome o = registry.outcome o := by
  obtain ⟨r, hr, name, answer, given, -⟩ := h
  rw [wf.outcome_eq hr name.symm, Handler.outcome_of_answer given,
    wf.orPlaceholder.outcome_eq (List.mem_map_of_mem hr) name.symm]
  exact Handler.outcome_of_answer (Handler.answer?_orPlaceholder given)

theorem FailsOn.orPlaceholder (h : registry.FailsOn o) (quiet : Quiet text) :
    (registry.orPlaceholder text).AnswersQuietly o := by
  obtain ⟨r, hr, name, failure, message, fails, worded⟩ := h
  exact ⟨_, List.mem_map_of_mem hr, name, text, Handler.answer?_orPlaceholder_of_error fails, quiet⟩

theorem WellFormed.placeholder_of_failsOn (wf : registry.WellFormed) (h : registry.FailsOn o) :
    (registry.orPlaceholder text).outcome o = text := by
  obtain ⟨r, hr, name, failure, message, fails, worded⟩ := h
  rw [wf.orPlaceholder.outcome_eq (List.mem_map_of_mem hr) name.symm]
  exact Handler.outcome_of_answer (Handler.answer?_orPlaceholder_of_error fails)

end Registry

def Engine.orPlaceholder (text : Text) (engine : Engine) : Engine :=
  { engine with registry := engine.registry.orPlaceholder text }

theorem Outline.WellNested.orPlaceholder {text : Text} {order : List Registration} {d : Outline}
    (nested : d.WellNested order) : d.WellNested (order.map (·.orPlaceholder text)) := by
  induction d with
  | empty => trivial
  | line line rest ih => exact ⟨nested.1, ih nested.2⟩
  | inline name tail rest ih =>
    obtain ⟨⟨r, hr, registered⟩, tails, restNested⟩ := nested
    exact ⟨⟨_, List.mem_map_of_mem hr, registered⟩, tails, ih restNested⟩
  | block name tail body rest ihBody ihRest =>
    obtain ⟨⟨r, hr, registered⟩, tails, before, bodyNested, restNested⟩ := nested
    refine ⟨⟨_, List.mem_map_of_mem hr, registered⟩, tails, ?_, ihBody bodyNested,
      ihRest restNested⟩
    intro first hfirst
    rw [RunsBefore, Registry.map_name_orPlaceholder]
    exact before first hfirst

end PageDirectives
