import PageDirectives.Proofs.Directive.Marked
import PageDirectives.Proofs.Directive.Registry
import PageDirectives.Proofs.Engine.Pass
/-!
Engines whose handlers always answer, and never with a line that starts as a directive does. Passes
then make no marked lines and keep the ones they leave in order, so what one pass has dealt with no
later pass brings back: after all passes no registered directive is left in any of its forms, and
running the engine on its own result changes nothing.
-/
namespace PageDirectives

open Directive

/-- The handler answers every occurrence, and with no line that starts as a directive does. -/
def Registration.AnswersQuietly (r : Registration) : Prop :=
  ∀ o, ∃ text, r.handler.answer? o = some text ∧ Quiet text

namespace Engine

/-- A pass with a quiet handler leaves nothing of its own directive and makes no marked lines. -/
theorem quiet_pass (page : Entries) {r : Registration} {form : Form} (free : '\n' ∉ r.name)
    (quiet : r.AnswersQuietly) {lines : List Text} (ls : Text.AreLines lines) (ne : lines ≠ []) :
    ∃ next calls, Text.AreLines next ∧ next ≠ [] ∧
      (applyForm r page (Text.ofLines lines) form).Yields (Text.ofLines next) calls ∧
      (next.filter isMarked).Sublist (lines.filter isMarked) ∧
      (reader r.name page form).found next = [] := by
  have settles : ∀ o, r.handler.Settles o := fun o =>
    let ⟨_, answer, _⟩ := quiet o
    Handler.settles_of_answer answer
  have lacks : ∀ o, Quiet (r.handler.outcome o) := by
    intro o
    obtain ⟨text, answer, quiet⟩ := quiet o
    rwa [Handler.outcome_of_answer answer]
  exact ⟨_, _, LineReader.areLines_exchange ls, LineReader.exchange_ne_nil _ _ ne,
    applyForm_yields free page form ls ne fun o _ => settles o,
    LineReader.filter_exchange_sublist fun o _ => lacks o,
    (reader_heeds r.name page form).found_exchange fun o _ => lacks o⟩

/-- After a run of passes with quiet handlers nothing is left of any of their directives: a later
pass cannot bring back what an earlier one has dealt with. -/
theorem exists_quiet_run (page : Entries) {passes : List (Registration × Form)}
    (free : ∀ p ∈ passes, '\n' ∉ p.1.name) (quiet : ∀ p ∈ passes, p.1.AnswersQuietly)
    {lines : List Text} (ls : Text.AreLines lines) (ne : lines ≠ []) :
    ∃ last calls, Text.AreLines last ∧ last ≠ [] ∧
      Run page passes (Text.ofLines lines) (Text.ofLines last) calls ∧
      (last.filter isMarked).Sublist (lines.filter isMarked) ∧
      ∀ p ∈ passes, (reader p.1.name page p.2).found last = [] := by
  induction passes generalizing lines with
  | nil => exact ⟨lines, [], ls, ne, Run.done _, List.Sublist.refl _, by simp⟩
  | cons p passes ih =>
    obtain ⟨r, form⟩ := p
    simp only [List.mem_cons, forall_eq_or_imp] at free quiet
    obtain ⟨next, first, nextLines, nextNe, step, fewer, clear⟩ :=
      quiet_pass page free.1 quiet.1 ls ne
    obtain ⟨last, rest, lastLines, lastNe, run, fewer', clears⟩ := ih free.2 quiet.2 nextLines nextNe
    refine ⟨last, first ++ rest, lastLines, lastNe, Run.pass step run, fewer'.trans fewer, ?_⟩
    intro p hp
    rcases List.mem_cons.1 hp with rfl | hp
    · exact (reader_heeds r.name page form).found_eq_nil fewer' clear
    · exact clears p hp

theorem idle_run {page : Entries} {passes : List (Registration × Form)}
    (free : ∀ p ∈ passes, '\n' ∉ p.1.name) {lines : List Text} (ls : Text.AreLines lines)
    (ne : lines ≠ []) (clear : ∀ p ∈ passes, (reader p.1.name page p.2).found lines = []) :
    Run page passes (Text.ofLines lines) (Text.ofLines lines) [] := by
  induction passes with
  | nil => exact Run.done _
  | cons p passes ih =>
    obtain ⟨r, form⟩ := p
    simp only [List.mem_cons, forall_eq_or_imp] at free clear
    exact Run.pass (applyForm_idle free.1 page form ls ne clear.1) (ih free.2 clear.2)

theorem filter_isMarked_settled (policy : LeftoverPolicy) (text : Text) :
    ((Text.lines (settled policy text)).filter isMarked).Sublist
      ((Text.lines text).filter isMarked) := by
  cases policy with
  | warn => exact List.Sublist.refl _
  | strip =>
    rw [settled]
    split
    · exact List.Sublist.refl _
    · exact filter_isMarked_stripLeftovers text

theorem settled_settled (policy : LeftoverPolicy) (text : Text) :
    settled policy (settled policy text) = settled policy text := by
  cases policy with
  | warn => rfl
  | strip =>
    by_cases h : leftovers text = []
    · simp [settled, h]
    · simp [settled, h, leftovers_stripLeftovers]

/-- With quiet handlers the engine leaves none of its directives, and its result as it is. -/
theorem process_complete {engine : Engine} (wf : engine.registry.WellFormed)
    (quiet : ∀ r ∈ engine.registry.registrations, r.AnswersQuietly) (page : Entries)
    (text : Text) :
    ∃ out, (process engine page text).result = .ok out ∧
      (∀ r ∈ engine.registry.registrations, ∀ form, r.forms.has form = true →
        ∀ other, scan out r.name form other = []) ∧
      ∀ other, (process engine other out).result = .ok out ∧
        (process engine other out).trace.calls = [] := by
  have registered : ∀ p ∈ passes engine.registry.sorted, p.1 ∈ engine.registry.registrations :=
    fun p hp => Registry.mem_sorted.1 (mem_passes.1 hp).1
  have free : ∀ p ∈ passes engine.registry.sorted, '\n' ∉ p.1.name :=
    fun p hp => wf.newline_notMem (registered p hp)
  obtain ⟨last, calls, ls, ne, run, -, clears⟩ := exists_quiet_run page free
    (fun p hp => quiet p.1 (registered p hp)) (Text.areLines_lines text) (Text.lines_ne_nil text)
  rw [Text.ofLines_lines] at run
  let out := settled engine.policy (Text.ofLines last)
  -- the policy takes lines away at most, so the passes find nothing in the result either
  have clear : ∀ p ∈ passes engine.registry.sorted, ∀ other,
      (reader p.1.name other p.2).found (Text.lines out) = [] := by
    intro p hp other
    have fewer := filter_isMarked_settled engine.policy (Text.ofLines last)
    rw [Text.lines_ofLines ls ne] at fewer
    exact found_reader_page other ((reader_heeds p.1.name page p.2).found_eq_nil fewer (clears p hp))
  refine ⟨out, (process_yields run).result, ?_, ?_⟩
  · intro r hr form has other
    have hp := mem_passes.2 ⟨Registry.mem_sorted.2 hr, has⟩
    rw [scan, (recogniser_reads (free _ hp) other form).all_eq]
    exact List.map_eq_nil_iff.1 (clear _ hp other)
  · intro other
    have idle := idle_run free (Text.areLines_lines out) (Text.lines_ne_nil out)
      fun p hp => clear p hp other
    have again := process_yields idle
    rw [Text.ofLines_lines, settled_settled] at again
    exact ⟨again.result, again.calls⟩

/-- A block inside a block that the outer one, running first, takes in by half; a stray terminator;
a block that is never closed; and a name that nobody has registered. -/
theorem process_complete_of_malformed :
    let answer (s : String) : Handler := ⟨.builtIn, fun _ => .ok (.text s.toList)⟩
    let engine : Engine := ⟨{ registrations := [⟨"box", .block, 10, answer "a box"⟩,
      ⟨"tag", .both, 20, answer "a tag"⟩] }, .strip, "---"⟩
    let text : Text := "::box\n::tag\nx\n::end\n::end\n::tag y\n::box z\n::other"
    engine.registry.WellFormed ∧
      (∀ r ∈ engine.registry.registrations, r.AnswersQuietly) ∧
      ∃ out, (process engine [] text).result = .ok out ∧
        (∀ r ∈ engine.registry.registrations, ∀ form, r.forms.has form = true →
          ∀ other, scan out r.name form other = []) ∧
        ∀ other, (process engine other out).result = .ok out ∧
          (process engine other out).trace.calls = [] := by
  intro answer engine text
  have wf : engine.registry.WellFormed := ⟨by decide, by decide, by decide⟩
  have quiet : ∀ r ∈ engine.registry.registrations, r.AnswersQuietly := by
    intro r hr o
    simp only [engine, List.mem_cons, List.not_mem_nil, or_false] at hr
    rcases hr with rfl | rfl
    · exact ⟨"a box".toList, rfl, by decide⟩
    · exact ⟨"a tag".toList, rfl, by decide⟩
  exact ⟨wf, quiet, process_complete wf quiet [] text⟩

end Engine
end PageDirectives
