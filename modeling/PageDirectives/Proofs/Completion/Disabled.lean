import PageDirectives.Proofs.Completion.Answers
/-!
Resolving with a service that is switched off. Marks take the places of all directives, and no mark
looks like a directive or like the end of a block. So an opening line that is left over still has no
closing line behind it, and the result has nothing to resolve any more.
-/
namespace PageDirectives

namespace Prompted

open Directive

/-- Whether a line starts as a directive does, blanks before it apart. -/
def bearsMark (line : Text) : Bool := isMarked (line.dropWhile Text.isInlineBlank)

theorem bearsMark_of_closes {line : Text} (h : closes line = true) : bearsMark line = true :=
  isMarked_of_closes h

theorem reader_eq_none_iff {line : Text} {later : List Text} :
    reader line later = none ↔ (openingArgs? line = none ∨ later.findIdx? closes = none) ∧
      inlineLine? line = none := by
  rw [reader, LineReader.orElse, Option.or_eq_none_iff, blockLines_eq_none_iff, LineReader.ofLine,
    Option.map_eq_none_iff]

theorem reader_heeds : reader.Heeds bearsMark where
  first line later h := by
    have none : rest? line = none := after?_of_not_marked h name
    exact reader_eq_none_iff.2 ⟨.inl (by rw [openingArgs?, none]; rfl),
      by rw [inlineLine?, none]; rfl⟩
  behind line later later' sub h := by
    obtain ⟨block, single⟩ := reader_eq_none_iff.1 h
    -- the lines that start as directives only become fewer, so none of them closes a block now
    refine reader_eq_none_iff.2 ⟨block.imp_right fun none => ?_, single⟩
    exact LineReader.findIdx?_eq_none_of_sublist (fun _ => bearsMark_of_closes) sub none

/-- Exchanging all directives for texts none of whose lines starts as one leaves no directive. -/
theorem all_exchange {image : Prompted → Text} (lacks : ∀ p, LineReader.Lacks bearsMark (image p))
    (text : Text) : all (Search.exchange form image text) = [] := by
  rw [all_eq, form_reads.lines_exchange]
  exact List.map_eq_nil_iff.1 (reader_heeds.found_exchange fun p _ => lacks p)

end Prompted

namespace Resolver

variable {resolver : Resolver}

theorem lacks_disabledMark (isBlock : Bool) :
    LineReader.Lacks Prompted.bearsMark (disabledMark isBlock) := by
  cases isBlock <;> decide

section Off

variable (off : resolver.service.enabled = false)
include off

theorem step_of_off (past : Dialogue) (p : Prompted) :
    (resolver.step past p).text = .ok (disabledMark p.isBlock) ∧
      (resolver.step past p).dialogue = past := by
  rw [step, off]
  exact ⟨rfl, rfl⟩

theorem steps_of_off (past : Dialogue) (ps : List Prompted) :
    (resolver.steps past ps).texts = .ok (ps.map fun p => disabledMark p.isBlock) ∧
      (resolver.steps past ps).dialogue = past := by
  induction ps with
  | nil => exact ⟨rfl, rfl⟩
  | cons p rest ih =>
    obtain ⟨text, dialogue⟩ := step_of_off off past p
    obtain ⟨texts, last⟩ := steps_cons_of_ok text rest
    rw [dialogue] at texts last
    rw [texts, last, ih.1, ih.2]
    exact ⟨rfl, rfl⟩

theorem resolve_of_off (past : Dialogue) (text : Text) :
    (resolver.resolve past text).text =
        .ok (Search.exchange Prompted.form (fun p => disabledMark p.isBlock) text) ∧
      (resolver.resolve past text).dialogue = past := by
  obtain ⟨woven, -, dialogue⟩ := resolve_eq resolver past text
  obtain ⟨texts, last⟩ := steps_of_off off past ((Prompted.all text).map (·.found))
  refine ⟨?_, dialogue.trans last⟩
  rw [woven _ texts, Prompted.gaps, ← Splice.behind_zip text 0 (by simp), List.map_map,
    List.zip_map', Prompted.all_eq_search]
  exact congrArg Except.ok (Search.behind_all (fun p : Prompted => disabledMark p.isBlock) text)

end Off

theorem resolve_of_nothing (resolver : Resolver) (past : Dialogue) {text : Text}
    (none : Prompted.all text = []) : resolver.resolve past text = ⟨.ok text, past, []⟩ := by
  rw [resolve, none]

/-- A pass without completions calls nothing and leaves no directive, so no pass after it, with
completions or without, calls or changes anything. -/
theorem resolve_disabled (off : resolver.service.enabled = false) (past : Dialogue) (text : Text) :
    let resolved := resolver.resolve past text
    resolved.dialogue = past ∧ ∃ out, resolved.text = .ok out ∧ Prompted.all out = [] ∧
      ∀ (again : Resolver) (later : Dialogue),
        again.resolve later out = ⟨.ok out, later, []⟩ := by
  intro resolved
  obtain ⟨exchanged, silent⟩ := resolve_of_off off past text
  have none := Prompted.all_exchange (fun p => lacks_disabledMark p.isBlock) text
  exact ⟨silent, _, exchanged, none, fun again later => resolve_of_nothing again later none⟩

/-- An opening line in the body of a block, a closing line too many, and a bare opening line that
nothing closes. -/
theorem resolve_disabled_nested :
    let resolver : Resolver := ⟨Service.disabled, .int 5, "Say hello"⟩
    let text : Text := "::ai\n::ai model=x\nbody\n::end\n::end\n ::ai hi\n::ai"
    let marked : Text := "<aside class=\"warning\">[AI disabled]</aside>\n::end\n" ++
      "<aside class=\"note\">[AI disabled]</aside>\n::ai"
    let resolved := resolver.resolve {} text
    resolver.service.enabled = false ∧ resolved.text = .ok marked ∧ resolved.dialogue = {} ∧
      ∃ out, resolved.text = .ok out ∧ Prompted.all out = [] ∧
        ∀ (again : Resolver) (later : Dialogue),
          again.resolve later out = ⟨.ok out, later, []⟩ := by
  intro resolver text marked resolved
  exact ⟨rfl, by decide +kernel, resolve_disabled rfl {} text⟩

end Resolver
end PageDirectives
