import PageDirectives.Proofs.Completion.Answers
import PageDirectives.Proofs.Completion.Disabled
import PageDirectives.Proofs.Text.Trimming
/-!
Prompts that hold nothing but blanks. A block never asks for one: it goes back to its arguments, and
then to the default prompt. An inline directive has nothing to go back to. One blank behind the name
does not make one, but of two blanks or more the first stands for the blank behind the name and the
others for a prompt, of which trimming leaves nothing. Such a line opens a block if a line below it
closes one, so a blank prompt is sent exactly for those below which none does.
-/
namespace PageDirectives

namespace Text

theorem isAllBlank_trim (text : Text) : isAllBlank (trim text) = isAllBlank text := by
  obtain ⟨back, blank, cut⟩ := exists_trim text
  have front : isAllBlank (text.takeWhile isBlank) = true := List.all_takeWhile
  have behind : isAllBlank back = true := List.all_eq_true.2 blank
  have whole := congrArg isAllBlank cut
  simp only [isAllBlank, List.all_append] at whole front behind ⊢
  rw [whole, front, behind, Bool.true_and, Bool.and_true]

/-- A trimmed text is blank only if it is empty. -/
theorem isAllBlank_trim_iff {text : Text} : isAllBlank (trim text) = true ↔ trim text = [] := by
  rw [isAllBlank_trim, trim_eq_nil_iff, isAllBlank, List.all_eq_true]

end Text

namespace Prompted

open Directive

/-- The arguments of a directive come without blanks around them. -/
def HasTrimmedArgs (p : Prompted) : Prop := ∃ tail, p.args = Text.trim tail

/-- A line with the mark, the name and blanks only, between the lines above and below; blanks may
stand before the mark. -/
structure BareAsk (above : List Text) (lead blanks : Text) (below : List Text) (text : Text) :
    Prop where
  written : Text.lines text = above ++ (lead ++ (mark ++ name ++ blanks)) :: below
  lead : ∀ c ∈ lead, Text.isInlineBlank c = true
  blank : ∀ c ∈ blanks, Text.isBlank c = true

/-- Below every bare line with two blanks or more stands a line that closes blocks. -/
def BareLinesClosed (text : Text) : Prop :=
  ∀ above lead blanks below, BareAsk above lead blanks below text → 2 ≤ blanks.length →
    ∃ line ∈ below, closes line = true

section Asking

variable {p : Prompted} {defaultPrompt : Text}

theorem isAllBlank_orElse {given otherwise : Text} (filled : Text.isAllBlank otherwise = false)
    (whole : Text.isAllBlank given = true → given = []) :
    Text.isAllBlank (Text.orElse (some given) otherwise) = false := by
  cases given with
  | nil => exact filled
  | cons c rest =>
    rw [Text.orElse, Bool.eq_false_iff]
    intro blank
    exact List.cons_ne_nil c rest (whole blank)

/-- A prompt is blank only if it is that of an inline directive without arguments. -/
theorem isAllBlank_query (trimmed : p.HasTrimmedArgs)
    (filled : Text.isAllBlank defaultPrompt = false) :
    Text.isAllBlank (p.query defaultPrompt).prompt = true ↔ p.isBlock = false ∧ p.args = [] := by
  obtain ⟨isBlock, args, body⟩ := p
  obtain ⟨tail, rfl⟩ : ∃ tail, args = Text.trim tail := trimmed
  cases isBlock with
  | true =>
    have prompt : Text.isAllBlank (query ⟨true, Text.trim tail, body⟩ defaultPrompt).prompt =
        false :=
      isAllBlank_orElse (isAllBlank_orElse filled Text.isAllBlank_trim_iff.1)
        Text.isAllBlank_trim_iff.1
    simp [prompt]
  | false =>
    simp only [query, Bool.false_eq_true, if_false, true_and]
    cases read : modelPrompt? (Text.trim tail) with
    | none => exact Text.isAllBlank_trim_iff
    | some named =>
      obtain ⟨rest, begins, behind⟩ := Option.bind_eq_some_iff.1 read
      have args : Text.trim tail ≠ [] := by
        rw [Text.after?_eq_some begins]
        exact List.cons_ne_nil _ _
      dsimp only at behind
      split at behind
      · cases behind
      · next whole =>
        obtain rfl := Option.some.inj behind
        rw [not_or] at whole
        simp only [Text.isAllBlank_trim_iff]
        exact iff_of_false whole.2 args

end Asking

section Lines

variable {text : Text}

theorem hasTrimmedArgs_of_reader {line : Text} {later : List Text} {p : Prompted} {more : Nat}
    (read : reader line later = some (p, more)) : p.HasTrimmedArgs := by
  rcases reader_eq_some_iff.1 read with ⟨args, last, opened, -, rfl, -⟩ | ⟨-, single, -⟩
  · obtain ⟨rest, -, -, args, -⟩ := openingArgs?_eq_some_iff.1 opened
    exact ⟨rest, args⟩
  · obtain ⟨rest, -, -, rfl⟩ := inlineLine?_eq_some_iff.1 single
    exact ⟨rest, rfl⟩

theorem closes_of_rest? {line rest : Text} (found : rest? line = some rest) :
    closes line = false := by
  obtain ⟨blanks, rfl, blank⟩ := rest?_eq_some_iff.1 found
  rw [closes, List.append_assoc, dropWhile_blanks blank]
  rfl

/-- Below the last line that closes blocks, every line is read by itself. -/
theorem mem_all_of_unclosed {above below : List Text} {line : Text} {p : Prompted}
    (written : Text.lines text = above ++ line :: below)
    (unclosed : ∀ l ∈ below, closes l = false) (single : inlineLine? line = some p) :
    ∃ s ∈ all text, s.found = p := by
  obtain ⟨rest, found, -, -⟩ := inlineLine?_eq_some_iff.1 single
  have open' : (line :: below).findIdx? closes = none :=
    List.findIdx?_eq_none_iff.2 (List.forall_mem_cons.2 ⟨closes_of_rest? found, unclosed⟩)
  have read : reader line below = some (p, 0) :=
    reader_eq_some_iff.2 (.inr ⟨.inr (List.findIdx?_eq_none_iff.2 unclosed), single, rfl⟩)
  rw [all_eq, written, LineReader.allFrom_append]
  · rw [LineReader.allFrom, read]
    exact ⟨_, List.mem_append_right _ List.mem_cons_self, rfl⟩
  · intro first later _
    apply reader_append_of_findIdx?
    rw [List.findIdx?_append, open', Option.map_none, Option.or_none]

/-- A bare line with two blanks or more has the shape of an inline directive that says nothing. -/
theorem BareAsk.inlineLine? {above below : List Text} {lead blanks : Text}
    (bare : BareAsk above lead blanks below text) (long : 2 ≤ blanks.length) :
    inlineLine? (lead ++ (mark ++ name ++ blanks)) = some ⟨false, [], []⟩ := by
  have mem : lead ++ (mark ++ name ++ blanks) ∈ Text.lines text := by
    rw [bare.written]
    exact List.mem_append_right _ List.mem_cons_self
  have free : '\n' ∉ blanks := by
    intro feed
    apply Text.areLines_lines text _ mem
    exact List.mem_append_right _ (List.mem_append_right _ feed)
  apply inlineLine?_eq_some_iff.2
  refine ⟨blanks, rest?_eq_some_iff.2 ⟨lead, rfl, bare.lead⟩,
    (isInlineTail_iff_of_blank bare.blank free).2 long, ?_⟩
  rw [Text.trim_eq_nil_iff.2 bare.blank]

/-- No directive asks for nothing exactly if all bare lines with two blanks or more are closed. -/
theorem asksFilled_iff {defaultPrompt : Text} (filled : Text.isAllBlank defaultPrompt = false)
    (text : Text) :
    (∀ s ∈ all text, Text.isAllBlank (s.found.query defaultPrompt).prompt = false) ↔
      BareLinesClosed text := by
  constructor
  · intro asks above lead blanks below bare long
    by_contra unclosed
    have open' : ∀ l ∈ below, closes l = false := by
      intro l hl
      rw [Bool.eq_false_iff]
      exact fun closing => unclosed ⟨l, hl, closing⟩
    obtain ⟨s, hs, silent⟩ := mem_all_of_unclosed bare.written open' (bare.inlineLine? long)
    have nothing := isAllBlank_query (p := ⟨false, [], []⟩) ⟨[], rfl⟩ filled
    rw [← silent, asks s hs] at nothing
    simp [silent] at nothing
  · intro closed s hs
    rw [all_eq] at hs
    obtain ⟨above, line, below, more, written, -, read⟩ := LineReader.exists_line_of_mem_allFrom hs
    rw [Bool.eq_false_iff, Ne, isAllBlank_query (hasTrimmedArgs_of_reader read) filled]
    rintro ⟨inline, nothing⟩
    rcases reader_eq_some_iff.1 read with ⟨args, last, -, -, same, -⟩ | ⟨noBlock, single, -⟩
    · exact absurd (same ▸ inline) Bool.noConfusion
    · obtain ⟨rest, found, shape, same⟩ := inlineLine?_eq_some_iff.1 single
      rw [same] at nothing
      obtain ⟨lead, rfl, leadBlank⟩ := rest?_eq_some_iff.1 found
      have long : 2 ≤ rest.length := by
        rw [isInlineTail, Bool.and_eq_true, decide_eq_true_iff] at shape
        exact shape.2
      obtain ⟨l, hl, closing⟩ := closed above lead rest below
        ⟨written, leadBlank, Text.trim_eq_nil_iff.1 nothing⟩ long
      -- so the line opens a block, and is not read by itself
      rcases noBlock with unopened | never
      · have opened := openingArgs?_eq_some_iff.2
          ⟨rest, found, nameEnds_of_isInlineTail shape, nothing.symm, .inl rfl⟩
        cases unopened.symm.trans opened
      · exact Bool.noConfusion (closing.symm.trans (List.findIdx?_eq_none_iff.1 never l hl))

end Lines
end Prompted

namespace Resolver

variable {resolver : Resolver}

/-- Whether the work of all calls begins: the service is switched on, and there is time. -/
def Asks (resolver : Resolver) : Prop :=
  resolver.service.enabled = true ∧ isExpired resolver.timeout = .ok false

section Attempt

variable {past : Dialogue} {query : Query}

theorem asked_attempt_of_inTime (inTime : isExpired resolver.timeout = .ok false) :
    (resolver.attempt past query).dialogue.asked = past.asked ++ [query] := by
  simp only [attempt, inTime]
  split
  · rfl
  · rfl
  · rfl
  · next late => cases late
  · next late => cases late

theorem asked_attempt_of_late (late : isExpired resolver.timeout ≠ .ok false)
    (awaited : (resolver.service.answer past query).delivery = .awaited) :
    (resolver.attempt past query).dialogue.asked = past.asked ++ [] := by
  rw [List.append_nil, attempt, awaited]
  cases time : isExpired resolver.timeout with
  | error failure => rfl
  | ok expired =>
    cases expired with
    | true => rfl
    | false => exact absurd time late

variable (resolver) in
theorem asked_attempt (past : Dialogue) (query : Query) :
    ∃ begun, (resolver.attempt past query).dialogue.asked = past.asked ++ begun ∧
      begun.Sublist [query] := by
  rw [attempt]
  split
  all_goals first
    | exact ⟨[query], rfl, List.Sublist.refl _⟩
    | exact ⟨[], (List.append_nil _).symm, List.nil_sublist _⟩

end Attempt

section Sent

variable (on : resolver.service.enabled = true)
include on

theorem asked_steps (past : Dialogue) (ps : List Prompted) :
    ∃ begun, (resolver.steps past ps).dialogue.asked = past.asked ++ begun ∧
      begun.Sublist
        ((ps.map (·.query resolver.defaultPrompt)).take (reach (resolver.places past ps))) := by
  induction ps generalizing past with
  | nil => exact ⟨[], (List.append_nil _).symm, List.nil_sublist _⟩
  | cons p rest ih =>
    obtain ⟨first, asked, sub⟩ := resolver.asked_attempt past
      (p.query resolver.defaultPrompt)
    rw [← (step_of_enabled on past p).2] at asked
    rw [places_cons]
    cases h : (resolver.step past p).text with
    | error e =>
      refine ⟨first, (congrArg _ (steps_cons_of_error h rest).2).trans asked, ?_⟩
      simpa [reach] using sub
    | ok text =>
      obtain ⟨others, asked', sub'⟩ := ih (resolver.step past p).dialogue
      refine ⟨first ++ others, ?_, ?_⟩
      · rw [(steps_cons_of_ok h rest).2, asked', asked, List.append_assoc]
      · rw [reach, List.map_cons, List.take_succ_cons]
        exact sub.append sub'

/-- What a run calls for, and the part of it on which work begins. -/
theorem exists_sent (past : Dialogue) (text : Text) :
    let run := resolver.resolve past text
    let queries := (Prompted.all text).map (·.found.query resolver.defaultPrompt)
    ∃ n begun, run.dialogue.called = past.called ++ queries.take n ∧
      run.dialogue.asked = past.asked ++ begun ∧ begun.Sublist (queries.take n) ∧
      (isExpired resolver.timeout = .ok false → begun = queries.take n) ∧
      (isExpired resolver.timeout ≠ .ok false →
        (∀ past query, (resolver.service.answer past query).delivery = .awaited) → begun = []) ∧
      ((∃ out, run.text = .ok out) → queries.length ≤ n) := by
  intro run queries
  let ps := (Prompted.all text).map (·.found)
  have same : ps.map (·.query resolver.defaultPrompt) = queries := List.map_map ..
  obtain ⟨-, failed, dialogue⟩ := resolve_eq resolver past text
  have called : run.dialogue.called = _ := (congrArg _ dialogue).trans (called_steps on past ps)
  obtain ⟨begun, asked, sub⟩ := asked_steps on past ps
  rw [same] at called sub
  refine ⟨reach (resolver.places past ps), begun, called, (congrArg _ dialogue).trans asked, sub,
    fun inTime => ?_, fun late awaited => ?_, ?_⟩
  · have adds (past : Dialogue) (p : Prompted) : (resolver.step past p).dialogue.asked =
        past.asked ++ [p.query resolver.defaultPrompt] := by
      rw [(step_of_enabled on past p).2, asked_attempt_of_inTime inTime]
    have all := steps_append adds past ps
    rw [asked, ← List.map_eq_flatMap, List.map_take, same] at all
    exact List.append_cancel_left all
  · let nothing (_ : Prompted) : List Query := []
    have adds (past : Dialogue) (p : Prompted) :
        (resolver.step past p).dialogue.asked = past.asked ++ nothing p := by
      rw [(step_of_enabled on past p).2, asked_attempt_of_late late (awaited _ _)]
    have all := steps_append adds past ps
    rw [asked, List.flatMap_eq_nil_iff.2 fun _ _ => rfl] at all
    exact List.append_cancel_left all
  · rintro ⟨out, ok⟩
    rcases steps_cases resolver past ps with
      ⟨_, -, -, reached⟩ | ⟨_, e, _, -, ended, -⟩
    · rw [reached, ← same, List.length_map]
    · cases (failed e ended).symm.trans ok

end Sent

/-- With a default prompt that is not blank, no run sends a blank prompt if the service is switched
off or all bare lines with two blanks or more are closed, and a run that comes to its end sends one
in all other cases. Work begins on all that is sent where there is time, and else at most on a part
of it, which is empty for a service whose work waits for the time. -/
theorem sendsFilled_iff (filled : Text.isAllBlank resolver.defaultPrompt = false)
    (past : Dialogue) (text : Text) :
    let run := resolver.resolve past text
    ∃ sent begun, run.dialogue.called = past.called ++ sent ∧
      run.dialogue.asked = past.asked ++ begun ∧ begun.Sublist sent ∧
      (resolver.Asks → begun = sent) ∧
      (¬ resolver.Asks →
        (∀ past query, (resolver.service.answer past query).delivery = .awaited) → begun = []) ∧
      ((resolver.service.enabled = true → Prompted.BareLinesClosed text) →
        ∀ query ∈ sent, Text.isAllBlank query.prompt = false) ∧
      ((∃ out, run.text = .ok out) →
        ((∀ query ∈ sent, Text.isAllBlank query.prompt = false) ↔
          (resolver.service.enabled = true → Prompted.BareLinesClosed text))) := by
  intro run
  cases on : resolver.service.enabled with
  | false =>
    have same : run.dialogue = past := (resolve_of_off on past text).2
    refine ⟨[], [], ?_, ?_, List.Sublist.refl _, fun _ => rfl, fun _ _ => rfl, ?_, ?_⟩
    · rw [same, List.append_nil]
    · rw [same, List.append_nil]
    · simp
    · simp
  | true =>
    obtain ⟨n, begun, called, asked, sub, all, none, whole⟩ := exists_sent on past text
    have closed : (∀ query ∈ (Prompted.all text).map (·.found.query resolver.defaultPrompt),
        Text.isAllBlank query.prompt = false) ↔ Prompted.BareLinesClosed text := by
      rw [List.forall_mem_map]
      exact Prompted.asksFilled_iff filled text
    refine ⟨_, begun, called, asked, sub, fun asks => all asks.2, fun silent => none fun inTime =>
      silent ⟨on, inTime⟩, fun bare query hquery => ?_, fun ended => ?_⟩
    · exact closed.2 (bare rfl) query (List.mem_of_mem_take hquery)
    · rw [List.take_of_length_le (whole ended), closed, imp_iff_right rfl]

/-- A bare line with two blanks that a later line closes, a model with a prompt, an empty block, and
a bare line with one blank. -/
theorem sendsFilled_of_closed :
    let resolver : Resolver := ⟨Service.scripted true [], .int 60, "Say hello"⟩
    let text : Text := "::ai  \n::end\n ::ai model=x hi\n::ai\n \n::end\n::ai "
    Text.isAllBlank resolver.defaultPrompt = false ∧ resolver.Asks ∧
      Prompted.BareLinesClosed text ∧
      ∃ sent, (resolver.resolve {} text).dialogue.asked = sent ∧
        sent.map (·.prompt) = ["Say hello".toList, "hi".toList, "Say hello".toList] ∧
        ∀ query ∈ sent, Text.isAllBlank query.prompt = false := by
  intro resolver text
  have filled : Text.isAllBlank resolver.defaultPrompt = false := by decide
  have closed : Prompted.BareLinesClosed text :=
    (Prompted.asksFilled_iff filled text).1 (by decide +kernel)
  have asks : resolver.Asks := ⟨rfl, rfl⟩
  obtain ⟨sent, begun, -, asked, -, all, -, quiet, -⟩ := sendsFilled_iff filled {} text
  obtain rfl := all asks
  have same : (resolver.resolve {} text).dialogue.asked = begun := asked
  refine ⟨filled, asks, closed, begun, same, ?_, quiet fun _ => closed⟩
  rw [← same]
  decide +kernel

/-- Behind the name stand two blanks, and an empty prompt is sent. -/
theorem not_sendsFilled :
    let resolver : Resolver := ⟨Service.scripted true [.ok (.text "R")], .int 60, "Say hello"⟩
    let resolved := resolver.resolve {} "::ai  "
    resolver.Asks ∧ Text.isAllBlank resolver.defaultPrompt = false ∧
      resolved.dialogue.asked.map (·.prompt) = [[]] ∧ resolved.text = .ok "R".toList :=
  ⟨⟨rfl, rfl⟩, by decide, by decide +kernel, by decide +kernel⟩

end Resolver
end PageDirectives
