import PageDirectives.Proofs.Directive.Opening
import PageDirectives.Proofs.Engine.Steps
/-!
Which calls a run of the engine can make, however its handlers answer: only for occurrences that are
found in some text under the name of a registration. In particular a block is never called for with a
closing line in its body.
-/
namespace PageDirectives

open Directive

/-- All calls of a step have a property, whether the step has a result or not. -/
def Traced.CallsOnly {α : Type} (P : Call → Prop) (x : Traced α) : Prop := ∀ c ∈ x.trace.calls, P c

theorem Traced.CallsOnly.composable (P : Call → Prop) : Composable fun _ => CallsOnly P where
  pure _ := fun _ hc => absurd hc List.not_mem_nil
  log _ _ := fun _ hc => absurd hc List.not_mem_nil
  bind {_ _ x f} hx hf := by
    intro c hc
    cases hr : x.result with
    | error e =>
      rw [(bind_of_error hr).1] at hc
      exact hx c hc
    | ok a =>
      rw [(bind_of_ok hr).1, Trace.calls_append] at hc
      rcases List.mem_append.1 hc with hc | hc
      · exact hx c hc
      · exact hf a c hc

namespace Engine

/-- Handlers are only called for what a scan finds under a registered name. -/
theorem process_calls {P : Call → Prop} {engine : Engine} {page : Entries}
    (h : ∀ r ∈ engine.registry.registrations, ∀ form text,
      ∀ s ∈ scan text r.name form page, P ⟨r.handler.origin, s.found⟩) (text : Text) :
    (process engine page text).CallsOnly P := by
  refine process_induction (Traced.CallsOnly.composable P) (fun r hr form text s hs c hc => ?_) text
  rw [(replacement_eq r s.found).1, List.mem_singleton] at hc
  rw [hc]
  exact h r hr form text s hs

end Engine

namespace Directive

/-- A block as written has no closing line before its last line. -/
def ClosedByLast (o : Occurrence) : Prop :=
  o.form = .block → ∃ line body last, Text.AreLines (line :: (body ++ [last])) ∧
    o.raw = Text.ofLines (line :: (body ++ [last])) ∧ ∀ l ∈ body, closes l = false

theorem closedByLast_of_mem_scan {name : Text} (free : '\n' ∉ name) {text : Text} {form : Form}
    {page : Entries} {s : Located Occurrence} (hs : s ∈ scan text name form page) :
    ClosedByLast s.found := by
  intro isBlock
  obtain ⟨line, later, more, ls, read⟩ := exists_read_of_mem_scan free hs
  cases form with
  | inline =>
    change inlineLine name page line later = _ at read
    obtain ⟨rest, -, -, same⟩ := inlineLine_eq_some_iff.1 read
    rw [same] at isBlock
    exact absurd isBlock (by simp)
  | block =>
    obtain ⟨args, -, last, hlast, -, same⟩ := blockLines_eq_some_iff.1 read
    obtain ⟨lt, -, before⟩ := List.findIdx?_eq_some_iff_getElem.1 hlast
    have taken : later.take (last + 1) = later.take last ++ [later[last]] :=
      (List.take_append_getElem lt).symm
    refine ⟨line, later.take last, later[last], ?_, by rw [same, taken], ?_⟩
    · rw [← taken]
      exact Text.areLines_cons.2 ⟨(Text.areLines_cons.1 ls).1, (Text.areLines_cons.1 ls).2.take _⟩
    · intro l hl
      obtain ⟨i, hi, rfl⟩ := List.mem_take_iff_getElem.1 hl
      simpa using before i (by omega)

theorem not_closedByLast {page : Entries} {name tail : Text} {body : List Text}
    (ls : Text.AreLines (openingLine name tail :: (body ++ [closingLine])))
    (mem : closingLine ∈ body) : ¬ ClosedByLast (blockOccurrence page name tail body) := by
  intro h
  obtain ⟨line, inner, last, innerLines, same, bare⟩ := h rfl
  have lines := congrArg Text.lines same
  rw [Text.lines_ofLines innerLines (by simp), blockOccurrence,
    Text.lines_ofLines ls (by simp)] at lines
  have bodies : body = inner := by
    have := (List.cons.inj lines).2
    exact (List.append_inj' this rfl).1
  have closed := bare closingLine (bodies ▸ mem)
  rw [closes_closingLine] at closed
  exact absurd closed (by simp)

end Directive

namespace Engine

/-- Whatever its handlers answer, the engine never calls for a block with a closing line in it. -/
theorem process_closedByLast {engine : Engine} (wf : engine.registry.WellFormed) (page : Entries)
    (text : Text) :
    (process engine page text).CallsOnly fun c => ClosedByLast c.occurrence :=
  process_calls (fun _ hr _ _ _ hs => closedByLast_of_mem_scan (wf.newline_notMem hr) hs) text

end Engine

end PageDirectives
