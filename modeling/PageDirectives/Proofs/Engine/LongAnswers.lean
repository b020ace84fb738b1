import Mathlib.Algebra.Ring.Int.Defs
import PageDirectives.Proofs.Engine.Pass
import PageDirectives.Proofs.Value.Writing
/-!
Answers and failures that have no text. A handler that fails is caught, but what it fails with is
written outside of that, and so is what it answers: a number too long to be written, in an answer or
in what a failure carries, ends the whole run. Nothing else does: a run has a result unless it meets
such a number, and the first call that gives one is the last.
-/
namespace PageDirectives

open Directive

/-- What a handler gives for an occurrence, an answer or a failure, has no text. -/
def Handler.GivesNoText (h : Handler) (o : Occurrence) : Prop :=
  match h.run o with
  | .error failure => failure.HasLong
  | .ok v => v.HasLong

instance (h : Handler) (o : Occurrence) : Decidable (h.GivesNoText o) :=
  match run : h.run o with
  | .error failure => decidable_of_iff failure.HasLong (by rw [Handler.GivesNoText, run])
  | .ok v => decidable_of_iff v.HasLong (by rw [Handler.GivesNoText, run])

theorem Handler.settles_iff {h : Handler} {o : Occurrence} : h.Settles o ↔ ¬ h.GivesNoText o := by
  rw [Settles, Fails, answer?, GivesNoText]
  cases h.run o with
  | error failure => simpa using failure.message_refusedIf.exists_ok_iff
  | ok v =>
    have written : v.display.toOption.isSome ↔ ¬ v.HasLong := by
      rw [← v.display_refusedIf.exists_ok_iff]
      cases v.display <;> simp [Except.toOption]
    cases v with
    | null => simp [Value.HasLong, Value.wholes]
    | _ => simpa using written

/-- What the handler of its name gives for an occurrence has no text. -/
def Registry.GivesNoText (registry : Registry) (o : Occurrence) : Prop :=
  ∃ r ∈ registry.registrations, r.name = o.name ∧ r.handler.GivesNoText o

instance (registry : Registry) (o : Occurrence) : Decidable (registry.GivesNoText o) :=
  inferInstanceAs (Decidable (∃ r ∈ registry.registrations, r.name = o.name ∧
    r.handler.GivesNoText o))

theorem Registry.WellFormed.givesNoText_iff {registry : Registry} (wf : registry.WellFormed)
    {r : Registration} (hr : r ∈ registry.registrations) {o : Occurrence} (name : o.name = r.name) :
    registry.GivesNoText o ↔ r.handler.GivesNoText o := by
  constructor
  · rintro ⟨s, hs, same, none⟩
    rwa [wf.eq_of_name hs hr (same.trans name)] at none
  · exact fun none => ⟨r, hr, name.symm, none⟩

/-- A step has a result and made no bad call, or it ended at the first bad one. -/
inductive Traced.EndsAtFirst (bad : Call → Prop) {α : Type} (x : Traced α) : Prop
  | done (a : α) (result : x.result = .ok a) (good : ∀ c ∈ x.trace.calls, ¬ bad c)
  | ended (before : List Call) (last : Call) (result : x.result = .error .tooLongToWrite)
    (calls : x.trace.calls = before ++ [last]) (good : ∀ c ∈ before, ¬ bad c) (meets : bad last)

namespace Traced.EndsAtFirst

variable {bad : Call → Prop} {α : Type} {x : Traced α}

theorem composable (bad : Call → Prop) : Composable fun _ => EndsAtFirst bad where
  pure a := .done a rfl fun _ hc => absurd hc List.not_mem_nil
  log _ _ := .done () rfl fun _ hc => absurd hc List.not_mem_nil
  bind {_ _ x f} hx hf := by
    cases hx with
    | ended before last result calls good meets =>
      obtain ⟨trace, same⟩ := bind_of_error (f := f) result
      exact .ended before last same (by rw [trace, calls]) good meets
    | done a result good =>
      obtain ⟨trace, same⟩ := bind_of_ok (f := f) result
      have all : (x >>= f).trace.calls = x.trace.calls ++ (f a).trace.calls := by
        rw [trace, Trace.calls_append]
      cases hf a with
      | done b result' good' =>
        refine .done b (same.trans result') fun c hc => ?_
        rw [all] at hc
        exact (List.mem_append.1 hc).elim (good c) (good' c)
      | ended before last result' calls good' meets =>
        refine .ended (x.trace.calls ++ before) last (same.trans result') ?_ ?_ meets
        · rw [all, calls, List.append_assoc]
        · exact List.forall_mem_append.2 ⟨good, good'⟩

theorem ok_iff (h : EndsAtFirst bad x) :
    (∃ a, x.result = .ok a) ↔ ∀ c ∈ x.trace.calls, ¬ bad c := by
  cases h with
  | done a result good => exact ⟨fun _ => good, fun _ => ⟨a, result⟩⟩
  | ended before last result calls good meets =>
    simp only [result, calls, List.mem_append, List.mem_singleton, reduceCtorEq, exists_false,
      false_iff]
    exact fun none => none last (.inr rfl) meets

theorem error_iff (h : EndsAtFirst bad x) (e : NumberError) :
    x.result = .error e ↔ e = .tooLongToWrite ∧ ∃ before last,
      x.trace.calls = before ++ [last] ∧ (∀ c ∈ before, ¬ bad c) ∧ bad last := by
  cases h with
  | done a result good =>
    simp only [result, reduceCtorEq, false_iff, not_and]
    rintro - ⟨before, last, calls, -, meets⟩
    exact good last (by simp [calls]) meets
  | ended before last result calls good meets =>
    rw [result, Except.error.injEq, eq_comm]
    exact ⟨fun same => ⟨same, before, last, calls, good, meets⟩, And.left⟩

end Traced.EndsAtFirst

namespace Engine

theorem replacement_refusedIf (r : Registration) (o : Occurrence) :
    RefusedIf (r.handler.GivesNoText o) (replacement r o).result := by
  rw [(replacement_eq r o).2.2, Handler.GivesNoText]
  cases r.handler.run o with
  | error failure => exact failure.message_refusedIf.map _
  | ok v =>
    cases v with
    | null => exact RefusedIf.of_ok (by simp [Value.HasLong, Value.wholes])
    | _ => exact Value.display_refusedIf _

theorem replacement_endsAtFirst (r : Registration) (o : Occurrence) {bad : Call → Prop}
    (own : bad ⟨r.handler.origin, o⟩ ↔ r.handler.GivesNoText o) :
    (replacement r o).EndsAtFirst bad := by
  have calls := (replacement_eq r o).1
  rcases replacement_refusedIf r o with ⟨long, result⟩ | ⟨short, text, result⟩
  · exact .ended [] ⟨r.handler.origin, o⟩ result calls (by simp) (own.2 long)
  · refine .done text result ?_
    rw [calls, List.forall_mem_singleton, own]
    exact short

theorem replacements_refusedIf (r : Registration) (os : List Occurrence) :
    RefusedIf (∃ o ∈ os, r.handler.GivesNoText o) (replacements r os).result := by
  induction os with
  | nil => exact RefusedIf.of_ok (by simp)
  | cons o os ih =>
    rw [replacements, Traced.result_bind]
    simp only [Traced.result_bind, List.exists_mem_cons_iff]
    exact (replacement_refusedIf r o).bind fun first => ih.bind_pure (first :: ·)

/-- A pass has a result if and only if nothing that it finds is given no text. -/
theorem applyForm_refusedIf (r : Registration) (page : Entries) (text : Text) (form : Form) :
    RefusedIf (∃ s ∈ scan text r.name form page, r.handler.GivesNoText s.found)
      (applyForm r page text form).result := by
  rw [applyForm]
  generalize scan text r.name form page = hits
  cases hits with
  | nil => exact RefusedIf.of_ok (by simp)
  | cons hit hits =>
    have all := replacements_refusedIf r ((hit :: hits).map (·.found))
    simp only [List.mem_map, exists_exists_and_eq_and] at all
    simp only [Traced.result_bind]
    exact all.bind_pure _

/-- A run ends with the first call that gives no text. -/
theorem process_endsAtFirst {engine : Engine} (wf : engine.registry.WellFormed) (page : Entries)
    (text : Text) :
    (process engine page text).EndsAtFirst fun c => engine.registry.GivesNoText c.occurrence := by
  refine process_induction (Traced.EndsAtFirst.composable _) (fun r hr form text s hs => ?_) text
  exact replacement_endsAtFirst r s.found
    (wf.givesNoText_iff hr (name_of_mem_scan (wf.newline_notMem hr) hs))

/-- A run has a result if and only if no handler gives an answer or a failure that has no text. If
one does, the run ends with that call, which is its last, and with the error of writing the value. -/
theorem process_ok_iff {engine : Engine} (wf : engine.registry.WellFormed) (page : Entries)
    (text : Text) :
    let run := process engine page text
    ((∃ out, run.result = .ok out) ↔
        ∀ c ∈ run.trace.calls, ¬ engine.registry.GivesNoText c.occurrence) ∧
      ∀ e, run.result = .error e ↔ e = .tooLongToWrite ∧ ∃ before last,
        run.trace.calls = before ++ [last] ∧
          (∀ c ∈ before, ¬ engine.registry.GivesNoText c.occurrence) ∧
          engine.registry.GivesNoText last.occurrence := by
  intro run
  have ends := process_endsAtFirst wf page text
  exact ⟨ends.ok_iff, ends.error_iff⟩

/-- The handler that is called second fails with a list that holds a number of 4301 digits, so the
third line is never looked at. -/
theorem process_ok_iff_in_list :
    let tag : Handler := ⟨.builtIn, fun o => .ok (.text ('#' :: o.args))⟩
    let big : Handler :=
      ⟨.builtIn, fun o => .error (.reported (.list [.text o.args, .int (10 ^ 4300)]))⟩
    let engine : Engine := ⟨{ registrations := [⟨"tag", .both, 10, tag⟩, ⟨"big", .inline, 20, big⟩,
      ⟨"box", .block, 30, tag⟩] }, .warn, "---"⟩
    engine.registry.WellFormed ∧
      let run := process engine [] "::box\n::end\n::big x\n::tag y"
      run.trace.calls.map (·.occurrence.raw) = ["::tag y".toList, "::big x".toList] ∧
        ((∃ out, run.result = .ok out) ↔
          ∀ c ∈ run.trace.calls, ¬ engine.registry.GivesNoText c.occurrence) ∧
        ∀ e, run.result = .error e ↔ e = .tooLongToWrite ∧ ∃ before last,
          run.trace.calls = before ++ [last] ∧
            (∀ c ∈ before, ¬ engine.registry.GivesNoText c.occurrence) ∧
            engine.registry.GivesNoText last.occurrence := by
  intro tag big engine
  have wf : engine.registry.WellFormed := ⟨by decide, by decide, by decide⟩
  refine ⟨wf, ?_, process_ok_iff wf [] _⟩
  rw [process, expand, Registry.sorted_of_pairwise (by decide)]
  decide +kernel

/-- An answer of 4301 digits ends the run, and so does a failure that carries it, where any other
failure leaves the directive as it is. -/
theorem process_of_long_answer :
    let engine (answer : Except Failure Value) : Engine :=
      ⟨{ registrations := [⟨"big", .inline, 100, ⟨.custom none, fun _ => answer⟩⟩] }, .warn, "---"⟩
    let run (answer : Except Failure Value) := (process (engine answer) [] "::big x").result
    run (.ok (.int (10 ^ 4300))) = .error .tooLongToWrite ∧
      (¬ ∃ out, run (.ok (.int (10 ^ 4300))) = .ok out) ∧
      run (.error (.reported (.int (10 ^ 4300)))) = .error .tooLongToWrite ∧
      run (.error (.reported (.text "no"))) = .ok "::big x".toList := by
  intro engine run
  have sorted (answer : Except Failure Value) :
      (engine answer).registry.sorted = (engine answer).registry.registrations :=
    Registry.sorted_of_pairwise (by simp [engine])
  have long : run (.ok (.int (10 ^ 4300))) = .error .tooLongToWrite := by
    simp only [run, process, expand, sorted]
    decide +kernel
  refine ⟨long, ?_, ?_, ?_⟩
  · rintro ⟨out, result⟩
    rw [long] at result
    cases result
  · simp only [run, process, expand, sorted]
    decide +kernel
  · simp only [run, process, expand, sorted]
    decide +kernel

end Engine
end PageDirectives
