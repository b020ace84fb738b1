import PageDirectives.Proofs.Directive.Leftover
import PageDirectives.Proofs.Engine.Pass
/-!
The two policies on leftovers. Handlers run alike under both, so they can only differ in what is
taken away at the end. Whether anything is taken away is decided by the names left over, among which
the terminator does not count; what is taken away are all lines that show a name, the terminator
among them. So terminators that nothing else is left beside stay where they are.
-/
namespace PageDirectives.Engine

open Directive

theorem process_result (engine : Engine) (page : Entries) (text : Text) :
    (process engine page text).result =
      (expand engine page text).result.map (settled engine.policy) := by
  cases h : (expand engine page text).result with
  | error e => exact (Traced.bind_of_error h).2
  | ok out => exact (Traced.bind_of_ok h).2.trans (settle_yields engine.policy out).result

theorem process_trace_calls (engine : Engine) (page : Entries) (text : Text) :
    (process engine page text).trace.calls = (expand engine page text).trace.calls := by
  cases h : (expand engine page text).result with
  | error e => exact congrArg Trace.calls (Traced.bind_of_error h).1
  | ok out =>
    refine (congrArg Trace.calls (Traced.bind_of_ok h).1).trans ?_
    rw [Trace.calls_append, (settle_yields engine.policy out).calls, List.append_nil]

/-- The lines of a text show no name but the terminator. -/
def OnlyTerminators (text : Text) : Prop :=
  ∀ line ∈ Text.lines text, ∀ name, shownName? line = some name → name = terminator

theorem leftovers_eq_nil_iff {text : Text} : leftovers text = [] ↔ OnlyTerminators text := by
  rw [List.eq_nil_iff_forall_not_mem]
  constructor
  · intro none line hline name shown
    have := none name
    rw [mem_leftovers, not_and, Bool.not_eq_false] at this
    exact beq_iff_eq.1 (this ⟨line, hline, shown⟩)
  · intro only name mem
    obtain ⟨⟨line, hline, shown⟩, free⟩ := mem_leftovers.1 mem
    rw [only line hline name shown] at free
    exact absurd free (by decide)

theorem settled_strip_of_onlyTerminators {text : Text} (only : OnlyTerminators text) :
    settled .strip text = text :=
  if_pos (leftovers_eq_nil_iff.2 only)

/-- Stripping takes all leftovers away unless some terminator is left over and nothing else is. -/
theorem settled_strip_eq_iff {text : Text} :
    settled .strip text = stripLeftovers text ↔
      ¬ OnlyTerminators text ∨ ∀ line ∈ Text.lines text, shownName? line ≠ some terminator := by
  by_cases only : OnlyTerminators text
  · rw [settled_strip_of_onlyTerminators only, eq_comm, stripLeftovers_eq_self_iff]
    simp only [only, not_true_eq_false, false_or]
    constructor
    · intro bare line hline shown
      simp [bare line hline] at shown
    · intro free line hline
      cases shown : shownName? line with
      | none => rfl
      | some name => exact absurd (only line hline name shown ▸ shown) (free line hline)
  · have left : ¬ leftovers text = [] := fun none => only (leftovers_eq_nil_iff.1 none)
    simp [settled, left, only]

/-- Under both policies the same handlers are called. Stripping is the same as taking leftovers away
from the result with a warning if and only if that result shows a name other than the terminator, or
no terminator; if terminators are all that is left over, nothing is taken away. -/
theorem process_strip_eq_iff (registry : Registry) (delimiter : Text) (page : Entries)
    (text : Text) :
    let run (policy : LeftoverPolicy) := process ⟨registry, policy, delimiter⟩ page text
    (run .strip).trace.calls = (run .warn).trace.calls ∧
      ((run .strip).result = (run .warn).result.map stripLeftovers ↔
        ∀ out, (run .warn).result = .ok out → ¬ OnlyTerminators out ∨
          ∀ line ∈ Text.lines out, shownName? line ≠ some terminator) ∧
      ∀ out, (run .warn).result = .ok out → OnlyTerminators out →
        (run .strip).result = .ok out := by
  intro run
  have expanded : expand ⟨registry, .strip, delimiter⟩ page text =
      expand ⟨registry, .warn, delimiter⟩ page text := rfl
  refine ⟨?_, ?_⟩
  · rw [process_trace_calls, process_trace_calls, expanded]
  · simp only [run, process_result, expanded]
    cases (expand ⟨registry, .warn, delimiter⟩ page text).result with
    | error e => simp [Except.map]
    | ok out =>
      have kept : settled .warn out = out := rfl
      constructor
      · simp only [Except.map, kept, Except.ok.injEq, settled_strip_eq_iff, forall_eq']
      · intro last same only
        obtain rfl := Except.ok.inj same
        exact congrArg Except.ok (settled_strip_of_onlyTerminators only)

/-- A terminator that closes nothing stays under the policy that takes leftovers away, unless there
is another line left over elsewhere. -/
theorem process_strip_keeps_terminator :
    let run (policy : LeftoverPolicy) (text : Text) :=
      (process ⟨{}, policy, "---"⟩ [] text).result
    run .warn "a\n::end\nb" = .ok "a\n::end\nb".toList ∧
      run .strip "a\n::end\nb" = .ok "a\n::end\nb".toList ∧
      (run .warn "a\n::end\nb").map stripLeftovers = .ok "a\n\nb".toList ∧
      run .strip "a\n::end\nb" ≠ (run .warn "a\n::end\nb").map stripLeftovers ∧
      run .strip "a\n::end\nb\n::todo" = .ok "a\n\nb\n".toList := by
  intro run
  have settles (policy : LeftoverPolicy) (text : Text) :
      run policy text = .ok (settled policy text) := by
    have none : Registry.sorted {} = [] := List.mergeSort_nil
    simp only [run, process_result, expand, none]
    rfl
  simp only [settles, Except.map, Except.ok.injEq, ne_eq]
  decide +kernel

end PageDirectives.Engine
