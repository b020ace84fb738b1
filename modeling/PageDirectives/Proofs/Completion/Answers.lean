import Mathlib.Algebra.Ring.Int.Defs
import PageDirectives.Completion.Resolve
import PageDirectives.Proofs.Completion.DocumentOrder
import PageDirectives.Proofs.Text.Weave
import PageDirectives.Proofs.Value.Writing
/-!
Resolving with a service that is switched on. Every directive has one call, in document order,
whether there is time for an answer or not, and what its call comes to takes its place. What is
called for depends on the text alone, so a call that comes out otherwise changes one place in the
result and nothing else. All of this ends at a call without an answer where the reason cannot be
written: a failure that carries a number which is too long, or a time that is one.
-/
namespace PageDirectives

/-- Services that differ at most in how one of their calls comes out: that before which a number of
calls was made. -/
structure Service.AlikeBut (number : Nat) (service other : Service) : Prop where
  enabled : other.enabled = service.enabled
  request : ∀ past query, (other.answer past query).request = (service.answer past query).request
  delivery : ∀ past query, (other.answer past query).delivery = (service.answer past query).delivery
  outcome : ∀ past query, past.called.length ≠ number →
    (other.answer past query).outcome = (service.answer past query).outcome

theorem Dialogue.after_congr (past : Dialogue) (query : Query) {answer other : Answer}
    (same : other.request = answer.request) : past.after query other = past.after query answer := by
  rw [after, after, same]

namespace Prompted

/-- The texts around the directives of a text. -/
def gaps (text : Text) : List Text :=
  Splice.gaps text 0 ((all text).map fun s => (s.start, s.stop))

/-- The directives of a text as they are written. -/
def pieces (text : Text) : List Text := (all text).map fun s => Text.slice text s.start s.stop

theorem length_gaps (text : Text) : (gaps text).length = (all text).length + 1 := by
  rw [gaps, Splice.length_gaps, List.length_map]

theorem weave_pieces (text : Text) : Splice.weave (gaps text) (pieces text) = text := by
  have within : ∀ s ∈ (all text).map fun s => (s.start, s.stop), 0 ≤ s.1 ∧ s.1 ≤ s.2 := by
    intro span hspan
    obtain ⟨s, hs, rfl⟩ := List.mem_map.1 hspan
    exact ⟨Nat.zero_le _, Nat.le_of_lt (bounds_of_mem_all hs).1⟩
  have woven :=
    Splice.weave_slices text within (List.pairwise_map.2 ((all_pairwise text).imp Nat.le_of_lt))
  rwa [List.map_map, List.drop_zero] at woven

end Prompted

namespace Resolver

variable {resolver : Resolver}

section Runs

/-- What the steps of several directives leave in their places, whether it can be written or not. -/
def places (resolver : Resolver) (past : Dialogue) : List Prompted → List (Except NumberError Text)
  | [] => []
  | p :: rest =>
    let first := resolver.step past p
    first.text :: places resolver first.dialogue rest

/-- How many directives a run gets to: those up to the first that has no text. -/
def reach : List (Except NumberError Text) → Nat
  | [] => 0
  | .error _ :: _ => 1
  | .ok _ :: rest => reach rest + 1

theorem places_cons (past : Dialogue) (p : Prompted) (rest : List Prompted) :
    resolver.places past (p :: rest) =
      (resolver.step past p).text :: resolver.places (resolver.step past p).dialogue rest :=
  rfl

@[simp] theorem length_places (past : Dialogue) (ps : List Prompted) :
    (resolver.places past ps).length = ps.length := by
  induction ps generalizing past with
  | nil => rfl
  | cons p rest ih => rw [places_cons, List.length_cons, ih, List.length_cons]

theorem steps_cons_of_error {past : Dialogue} {p : Prompted} {e : NumberError}
    (h : (resolver.step past p).text = .error e) (rest : List Prompted) :
    (resolver.steps past (p :: rest)).texts = .error e ∧
      (resolver.steps past (p :: rest)).dialogue = (resolver.step past p).dialogue := by
  simp only [steps, h, and_self]

theorem steps_cons_of_ok {past : Dialogue} {p : Prompted} {text : Text}
    (h : (resolver.step past p).text = .ok text) (rest : List Prompted) :
    let others := resolver.steps (resolver.step past p).dialogue rest
    (resolver.steps past (p :: rest)).texts = others.texts.map (text :: ·) ∧
      (resolver.steps past (p :: rest)).dialogue = others.dialogue := by
  simp only [steps, h, and_self]

variable (resolver) in
/-- A run has a text in every place, or it ends with the first place that has none. -/
theorem steps_cases (past : Dialogue) (ps : List Prompted) :
    (∃ texts, resolver.places past ps = texts.map .ok ∧
        (resolver.steps past ps).texts = .ok texts ∧ reach (resolver.places past ps) = ps.length) ∨
      ∃ (written : List Text) (e : NumberError) (rest : List (Except NumberError Text)),
        resolver.places past ps = written.map .ok ++ .error e :: rest ∧
        (resolver.steps past ps).texts = .error e ∧
        reach (resolver.places past ps) = written.length + 1 := by
  induction ps generalizing past with
  | nil => exact .inl ⟨[], rfl, rfl, rfl⟩
  | cons p rest ih =>
    rw [places_cons]
    cases h : (resolver.step past p).text with
    | error e => exact .inr ⟨[], e, _, rfl, (steps_cons_of_error h rest).1, rfl⟩
    | ok text =>
      rw [(steps_cons_of_ok h rest).1, reach]
      rcases ih (resolver.step past p).dialogue with
        ⟨texts, same, run, all⟩ | ⟨written, e, others, same, run, upTo⟩
      · refine .inl ⟨text :: texts, by rw [same, List.map_cons], by rw [run]; rfl, ?_⟩
        rw [all, List.length_cons]
      · refine .inr ⟨text :: written, e, others, ?_, by rw [run]; rfl, ?_⟩
        · rw [same, List.map_cons, List.cons_append]
        · rw [upTo, List.length_cons]

theorem length_of_steps {past : Dialogue} {ps : List Prompted} {texts : List Text}
    (written : (resolver.steps past ps).texts = .ok texts) : texts.length = ps.length := by
  rcases steps_cases resolver past ps with
    ⟨found, same, ok, -⟩ | ⟨_, e, _, -, failed, -⟩
  · obtain rfl := Except.ok.inj (written.symm.trans ok)
    simpa using (congrArg List.length same).symm
  · cases written.symm.trans failed

/-- What each step adds to a dialogue, a run adds for the directives that it gets to. -/
theorem steps_append {f : Dialogue → List Query} {queries : Prompted → List Query}
    (adds : ∀ past p, f (resolver.step past p).dialogue = f past ++ queries p) (past : Dialogue)
    (ps : List Prompted) :
    f (resolver.steps past ps).dialogue =
      f past ++ (ps.take (reach (resolver.places past ps))).flatMap queries := by
  induction ps generalizing past with
  | nil => simp [steps]
  | cons p rest ih =>
    rw [places_cons]
    cases h : (resolver.step past p).text with
    | error e => simp [(steps_cons_of_error h rest).2, adds, reach]
    | ok text =>
      rw [(steps_cons_of_ok h rest).2, ih, adds, reach, List.take_succ_cons, List.flatMap_cons,
        List.append_assoc]

theorem resolve_eq (resolver : Resolver) (past : Dialogue) (text : Text) :
    let run := resolver.steps past ((Prompted.all text).map (·.found))
    (∀ texts, run.texts = .ok texts →
        (resolver.resolve past text).text = .ok (Splice.weave (Prompted.gaps text) texts)) ∧
      (∀ e, run.texts = .error e → (resolver.resolve past text).text = .error e) ∧
      (resolver.resolve past text).dialogue = run.dialogue := by
  intro run
  have spliced : ∀ texts, run.texts = .ok texts →
      Splice.behind text 0 (((Prompted.all text).map fun s => (s.start, s.stop)).zip texts) =
        Splice.weave (Prompted.gaps text) texts := by
    intro texts written
    exact Splice.behind_zip text 0 (by simpa using (length_of_steps written).symm)
  rw [resolve]
  revert spliced
  simp only [run]
  generalize Prompted.all text = hits
  cases hits with
  | nil =>
    intro spliced
    refine ⟨fun texts written => ?_, fun e failed => ?_, rfl⟩
    · rw [← spliced texts written]
      rfl
    · cases failed
  | cons hit hits =>
    intro spliced
    refine ⟨fun texts written => ?_, fun e failed => ?_, rfl⟩
    · rw [← spliced texts written]
      dsimp only
      rw [written]
      rfl
    · dsimp only
      rw [failed]
      rfl

/-- A text that a run has is woven from the texts of its steps. -/
theorem exists_texts {past : Dialogue} {text out : Text}
    (ok : (resolver.resolve past text).text = .ok out) :
    ∃ texts, (resolver.steps past ((Prompted.all text).map (·.found))).texts = .ok texts ∧
      texts.length = (Prompted.all text).length ∧
      out = Splice.weave (Prompted.gaps text) texts := by
  obtain ⟨woven, failed, -⟩ := resolve_eq resolver past text
  cases run : (resolver.steps past ((Prompted.all text).map (·.found))).texts with
  | error e => cases (failed e run).symm.trans ok
  | ok texts =>
    refine ⟨texts, rfl, ?_, Except.ok.inj (ok.symm.trans (woven texts run))⟩
    rw [length_of_steps run, List.length_map]

end Runs

section Calls

/-- What the calls for several queries come to, one after the other. -/
def attempts (resolver : Resolver) (past : Dialogue) : List Query → List Attempt
  | [] => []
  | query :: rest =>
    let call := resolver.attempt past query
    call :: attempts resolver call.dialogue rest

theorem attempts_cons (past : Dialogue) (query : Query) (rest : List Query) :
    resolver.attempts past (query :: rest) = resolver.attempt past query ::
      resolver.attempts (resolver.attempt past query).dialogue rest :=
  rfl

@[simp] theorem length_attempts (past : Dialogue) (queries : List Query) :
    (resolver.attempts past queries).length = queries.length := by
  induction queries generalizing past with
  | nil => rfl
  | cons query rest ih => rw [attempts_cons, List.length_cons, ih, List.length_cons]

theorem called_attempt (past : Dialogue) (query : Query) :
    (resolver.attempt past query).dialogue.called = past.called ++ [query] := by
  rw [attempt]
  split <;> rfl

/-- The reason that a mark gives for a failure. -/
def reason (resolver : Resolver) : Failure → Except NumberError Text
  | .timedOut _ => resolver.lateness
  | failure => failure.message

/-- What takes the place of a directive by what its call comes to: a text itself, nothing for any
other value, and else a mark with the reason. -/
def outcomeText (resolver : Resolver) (isBlock : Bool) :
    Except Failure Value → Except NumberError Text
  | .ok (.text s) => .ok s
  | .ok _ => .ok []
  | .error failure => (resolver.reason failure).map (errorMark · isBlock)

/-- A call has no answer, and the reason for that cannot be written. -/
def Unwritten (resolver : Resolver) : Except Failure Value → Prop
  | .ok _ => False
  | .error (.timedOut _) => resolver.timeout.HasLong
  | .error failure => failure.HasLong

variable (resolver) in
theorem outcomeText_refusedIf (isBlock : Bool) (outcome : Except Failure Value) :
    RefusedIf (resolver.Unwritten outcome) (resolver.outcomeText isBlock outcome) := by
  cases outcome with
  | ok v => cases v <;> exact RefusedIf.of_ok not_false
  | error failure =>
    cases failure with
    | timedOut what => exact (resolver.timeout.display_refusedIf.map _).map _
    | reported what => exact what.display_refusedIf.map _
    | absentKey key => exact key.literal_refusedIf.map _
    | _ => exact RefusedIf.of_ok not_false

variable (on : resolver.service.enabled = true)
include on

theorem step_of_enabled (past : Dialogue) (p : Prompted) :
    let call := resolver.attempt past (p.query resolver.defaultPrompt)
    (resolver.step past p).text = resolver.outcomeText p.isBlock call.outcome ∧
      (resolver.step past p).dialogue = call.dialogue := by
  have marked (lead : Text) (reason : Except NumberError Text) (dialogue : Dialogue) :
      (markedStep lead reason p.isBlock dialogue).text = reason.map (errorMark · p.isBlock) ∧
        (markedStep lead reason p.isBlock dialogue).dialogue = dialogue := by
    cases reason <;> exact ⟨rfl, rfl⟩
  simp only [step, on, Bool.not_true, Bool.false_eq_true, if_false]
  generalize resolver.attempt past (p.query resolver.defaultPrompt) = call
  obtain ⟨dialogue, outcome⟩ := call
  cases outcome with
  | ok v => cases v <;> exact ⟨rfl, rfl⟩
  | error failure => cases failure <;> exact marked _ _ _

theorem places_of_enabled (past : Dialogue) (ps : List Prompted) :
    resolver.places past ps = List.zipWith (fun p => resolver.outcomeText p.isBlock) ps
      ((resolver.attempts past (ps.map (·.query resolver.defaultPrompt))).map (·.outcome)) := by
  induction ps generalizing past with
  | nil => rfl
  | cons p rest ih =>
    obtain ⟨text, dialogue⟩ := step_of_enabled on past p
    rw [places_cons, text, dialogue, ih, List.map_cons, attempts_cons, List.map_cons,
      List.zipWith_cons_cons]

theorem called_steps (past : Dialogue) (ps : List Prompted) :
    (resolver.steps past ps).dialogue.called = past.called ++
      (ps.map (·.query resolver.defaultPrompt)).take (reach (resolver.places past ps)) := by
  have adds (past : Dialogue) (p : Prompted) : (resolver.step past p).dialogue.called =
      past.called ++ [p.query resolver.defaultPrompt] := by
    rw [(step_of_enabled on past p).2, called_attempt]
  rw [steps_append adds, ← List.map_take, List.map_eq_flatMap]

end Calls

/-- In a run that has a text all directives have their calls. -/
theorem dialogue_steps (on : resolver.service.enabled = true) {past : Dialogue}
    {ps : List Prompted} {texts : List Text} (h : (resolver.steps past ps).texts = .ok texts) :
    (resolver.steps past ps).dialogue = (ps.map (·.query resolver.defaultPrompt)).foldl
      (fun past query => (resolver.attempt past query).dialogue) past := by
  induction ps generalizing past texts with
  | nil => rfl
  | cons p rest ih =>
    cases step : (resolver.step past p).text with
    | error e => cases (steps_cons_of_error step rest).1.symm.trans h
    | ok text =>
      obtain ⟨same, dialogue⟩ := steps_cons_of_ok step rest
      rw [same] at h
      cases others : (resolver.steps (resolver.step past p).dialogue rest).texts with
      | error e => simp [others, Except.map] at h
      | ok texts =>
        rw [dialogue, ih others, List.map_cons, List.foldl_cons, (step_of_enabled on past p).2]

section Alike

variable {number : Nat} {other : Service} (alike : resolver.service.AlikeBut number other)
include alike

theorem attempt_of_alike (past : Dialogue) (query : Query) :
    let again : Resolver := { resolver with service := other }
    (again.attempt past query).dialogue = (resolver.attempt past query).dialogue ∧
      (past.called.length ≠ number →
        (again.attempt past query).outcome = (resolver.attempt past query).outcome) := by
  intro again
  have done := past.after_congr query (alike.request past query)
  simp only [attempt, again, alike.delivery past query, done]
  constructor
  · split <;> rfl
  · intro ne
    rw [alike.outcome past query ne]

/-- With services that are alike but for one call all calls but that one come to the same. -/
theorem attempts_of_alike (past : Dialogue) (queries : List Query) {j : Nat}
    (ne : past.called.length + j ≠ number) :
    let again : Resolver := { resolver with service := other }
    ((again.attempts past queries).map (·.outcome))[j]? =
      ((resolver.attempts past queries).map (·.outcome))[j]? := by
  intro again
  induction queries generalizing past j with
  | nil => rfl
  | cons query rest ih =>
    obtain ⟨dialogue, outcome⟩ := attempt_of_alike alike past query
    rw [attempts_cons, attempts_cons, dialogue, List.map_cons, List.map_cons]
    cases j with
    | zero => exact congrArg some (outcome ne)
    | succ j =>
      rw [List.getElem?_cons_succ, List.getElem?_cons_succ]
      refine ih (resolver.attempt past query).dialogue ?_
      rw [called_attempt, List.length_append, List.length_singleton]
      omega

end Alike

/-- What the directives of a text become by what their calls come to. -/
def outcomeTexts (resolver : Resolver) (past : Dialogue) (text : Text) :
    List (Except NumberError Text) :=
  let ps := (Prompted.all text).map (·.found)
  List.zipWith (fun p => resolver.outcomeText p.isBlock) ps
    ((resolver.attempts past (ps.map (·.query resolver.defaultPrompt))).map (·.outcome))

section Places

variable {past : Dialogue} {text : Text}

@[simp] theorem length_outcomeTexts :
    (resolver.outcomeTexts past text).length = (Prompted.all text).length := by
  simp [outcomeTexts]

theorem mem_outcomeTexts_of_mem {call : Attempt}
    (h : call ∈ resolver.attempts past
      ((Prompted.all text).map (·.found.query resolver.defaultPrompt))) :
    ∃ isBlock, resolver.outcomeText isBlock call.outcome ∈ resolver.outcomeTexts past text := by
  obtain ⟨i, hi, rfl⟩ := List.mem_iff_getElem.1 h
  have at' : i < (Prompted.all text).length := by simpa using hi
  refine ⟨(Prompted.all text)[i].found.isBlock, List.mem_iff_getElem.2 ⟨i, by simpa using at', ?_⟩⟩
  simp [outcomeTexts, Function.comp_def]

theorem exists_attempt_of_mem {place : Except NumberError Text}
    (h : place ∈ resolver.outcomeTexts past text) :
    ∃ call ∈ resolver.attempts past
        ((Prompted.all text).map (·.found.query resolver.defaultPrompt)),
      RefusedIf (resolver.Unwritten call.outcome) place := by
  obtain ⟨i, hi, rfl⟩ := List.mem_iff_getElem.1 h
  have at' : i < (Prompted.all text).length := by simpa using hi
  refine ⟨_, List.getElem_mem (n := i) (by simpa using at'), ?_⟩
  have refused := resolver.outcomeText_refusedIf
  simpa [outcomeTexts, Function.comp_def] using refused _ _

end Places

section Resolve

variable (on : resolver.service.enabled = true) (past : Dialogue) (text : Text)
include on

/-- A run has one call for each directive and the outcomes in their places, or it ends with the
first outcome that cannot be written. -/
theorem resolve_cases :
    let queries := (Prompted.all text).map (·.found.query resolver.defaultPrompt)
    let places := resolver.outcomeTexts past text
    let run := resolver.resolve past text
    (∃ texts, places = texts.map .ok ∧
        run.text = .ok (Splice.weave (Prompted.gaps text) texts) ∧
        run.dialogue.called = past.called ++ queries) ∨
      ∃ (written : List Text) (rest : List (Except NumberError Text)),
        places = written.map .ok ++ .error .tooLongToWrite :: rest ∧
        run.text = .error .tooLongToWrite ∧
        run.dialogue.called = past.called ++ queries.take (written.length + 1) := by
  intro queries places run
  let ps := (Prompted.all text).map (·.found)
  have same : resolver.places past ps = places := places_of_enabled on past ps
  have asked : ps.map (·.query resolver.defaultPrompt) = queries := List.map_map ..
  obtain ⟨ok, failed, dialogue⟩ := resolve_eq resolver past text
  have called : run.dialogue.called = _ := (congrArg _ dialogue).trans (called_steps on past ps)
  rw [asked] at called
  rcases steps_cases resolver past ps with
    ⟨texts, all, done, reached⟩ | ⟨written, e, rest, all, ended, reached⟩
  · refine .inl ⟨texts, same ▸ all, ok texts done, ?_⟩
    rw [called, reached, List.take_of_length_le (by simp [queries, ps])]
  · have mem : .error e ∈ places := by simp [← same, all]
    obtain ⟨call, -, refused⟩ := exists_attempt_of_mem mem
    obtain rfl : e = .tooLongToWrite := by
      rcases refused with ⟨-, error⟩ | ⟨-, _, written⟩
      · exact Except.error.inj error
      · cases written
    exact .inr ⟨written, rest, same ▸ all, failed _ ended, by rw [called, reached]⟩

theorem resolve_ok_iff :
    (∃ out, (resolver.resolve past text).text = .ok out) ↔
      ∀ call ∈ resolver.attempts past
          ((Prompted.all text).map (·.found.query resolver.defaultPrompt)),
        ¬ resolver.Unwritten call.outcome := by
  rcases resolve_cases on past text with
    ⟨texts, places, written, -⟩ | ⟨before, rest, places, ended, -⟩
  · refine iff_of_true ⟨_, written⟩ fun call hcall unwritten => ?_
    obtain ⟨isBlock, mem⟩ := mem_outcomeTexts_of_mem hcall
    obtain ⟨place, -, same⟩ := List.mem_map.1 (places ▸ mem)
    rcases resolver.outcomeText_refusedIf isBlock call.outcome with ⟨-, refused⟩ | ⟨written, -⟩
    · cases same.trans refused
    · exact written unwritten
  · refine iff_of_false ?_ fun written => ?_
    · rintro ⟨out, ok⟩
      cases ended.symm.trans ok
    · obtain ⟨call, hcall, refused⟩ := exists_attempt_of_mem
        (show .error .tooLongToWrite ∈ resolver.outcomeTexts past text by simp [places])
      rcases refused with ⟨unwritten, -⟩ | ⟨-, _, ok⟩
      · exact written call hcall unwritten
      · cases ok

variable {past text} in
theorem dialogue_resolve {out : Text} (h : (resolver.resolve past text).text = .ok out) :
    (resolver.resolve past text).dialogue =
      ((Prompted.all text).map (·.found.query resolver.defaultPrompt)).foldl
        (fun past query => (resolver.attempt past query).dialogue) past := by
  obtain ⟨texts, run, -⟩ := exists_texts h
  rw [(resolve_eq resolver past text).2.2, dialogue_steps on run, List.map_map, Function.comp_def]

end Resolve

theorem outcomeTexts_of_alike {number : Nat} {other : Service}
    (alike : resolver.service.AlikeBut number other) (past : Dialogue) (text : Text) {j : Nat}
    (ne : past.called.length + j ≠ number) :
    let again : Resolver := { resolver with service := other }
    (again.outcomeTexts past text)[j]? = (resolver.outcomeTexts past text)[j]? := by
  intro again
  -- what an outcome becomes does not depend on the service
  have texts : again.outcomeText = resolver.outcomeText := rfl
  have same := attempts_of_alike alike past
    (((Prompted.all text).map (·.found)).map (·.query resolver.defaultPrompt)) ne
  rw [outcomeTexts, outcomeTexts, texts, List.getElem?_zipWith, List.getElem?_zipWith, same]

/-- Every directive has one call, in document order, whatever time there is for it, and what the
call comes to takes the place of the directive, while nothing else in the text changes. The run ends
with the first call without an answer whose reason cannot be written, and it has a text if and only
if there is none. A call that comes out otherwise changes no query and one place at most. -/
theorem resolve_isolates (on : resolver.service.enabled = true) (past : Dialogue) (text : Text) :
    let queries := (Prompted.all text).map (·.found.query resolver.defaultPrompt)
    let calls := resolver.attempts past queries
    let places := resolver.outcomeTexts past text
    let gaps := Prompted.gaps text
    let run := resolver.resolve past text
    gaps.length = queries.length + 1 ∧ Splice.weave gaps (Prompted.pieces text) = text ∧
      calls.length = queries.length ∧ places.length = queries.length ∧
      ((∃ texts, places = texts.map .ok ∧ run.text = .ok (Splice.weave gaps texts) ∧
          run.dialogue.called = past.called ++ queries) ∨
        ∃ (written : List Text) (rest : List (Except NumberError Text)),
          places = written.map .ok ++ .error .tooLongToWrite :: rest ∧
          run.text = .error .tooLongToWrite ∧
          run.dialogue.called = past.called ++ queries.take (written.length + 1)) ∧
      ((∃ out, run.text = .ok out) ↔ ∀ call ∈ calls, ¬ resolver.Unwritten call.outcome) ∧
      ∀ i other, resolver.service.AlikeBut (past.called.length + i) other →
        let again : Resolver := { resolver with service := other }
        (∀ j, j ≠ i → (again.outcomeTexts past text)[j]? = places[j]?) ∧
          ∀ out out', run.text = .ok out → (again.resolve past text).text = .ok out' →
            (again.resolve past text).dialogue = run.dialogue ∧
            ∃ texts others, texts.length = queries.length ∧ others.length = queries.length ∧
              out = Splice.weave gaps texts ∧ out' = Splice.weave gaps others ∧
              ∀ j, j ≠ i → others[j]? = texts[j]? := by
  intro queries calls places gaps run
  refine ⟨?_, Prompted.weave_pieces text, ?_, ?_, resolve_cases on past text,
    resolve_ok_iff on past text, fun i other alike => ?_⟩
  · rw [Prompted.length_gaps, List.length_map]
  · rw [length_attempts]
  · rw [length_outcomeTexts, List.length_map]
  intro again
  have apart : ∀ j, j ≠ i → (again.outcomeTexts past text)[j]? = places[j]? :=
    fun j ne => outcomeTexts_of_alike alike past text (by omega)
  refine ⟨apart, fun out out' ok ok' => ?_⟩
  have on' : again.service.enabled = true := alike.enabled.trans on
  refine ⟨?_, ?_⟩
  · have same : (fun past query => (again.attempt past query).dialogue) =
        fun past query => (resolver.attempt past query).dialogue :=
      funext fun past => funext fun query => (attempt_of_alike alike past query).1
    rw [dialogue_resolve on ok, dialogue_resolve on' ok', same]
  · rcases resolve_cases on past text with
      ⟨texts, written, woven, -⟩ | ⟨_, _, -, ended, -⟩
    · rcases resolve_cases on' past text with
        ⟨others, written', woven', -⟩ | ⟨_, _, -, ended, -⟩
      · refine ⟨texts, others, ?_, ?_, Except.ok.inj (ok.symm.trans woven),
          Except.ok.inj (ok'.symm.trans woven'), fun j ne => ?_⟩
        · simpa [queries] using (congrArg List.length written).symm
        · simpa [queries] using (congrArg List.length written').symm
        · have same := apart j ne
          simp only [places, written, written', List.getElem?_map] at same
          exact Option.map_injective (fun _ _ => Except.ok.inj) same
      · cases ended.symm.trans ok'
    · cases ended.symm.trans ok

/-- Two directives that are written alike and a block. The second call fails in one run and answers
with the line of a directive in the other. -/
theorem resolve_isolates_identical :
    let script (second : Except Failure Value) : Service :=
      Service.scripted true [.ok (.text "A"), second, .ok .null]
    let resolver : Resolver := ⟨script (.error (.reported (.text "boom"))), .int 5, "Say hello"⟩
    let other : Service := script (.ok (.text "::ai again"))
    let again : Resolver := { resolver with service := other }
    let text : Text := "::ai same\n::ai same\n::ai\nx\n::end"
    let queries := (Prompted.all text).map (·.found.query "Say hello")
    let marked : Text := "A\n<aside class=\"note\">[AI Error: boom]</aside>\n"
    let answered : Text := "A\n::ai again\n"
    resolver.service.enabled = true ∧ resolver.service.AlikeBut 1 other ∧
      (resolver.resolve {} text).text = .ok marked ∧ (again.resolve {} text).text = .ok answered ∧
      (resolver.resolve {} text).dialogue.called = queries ∧
      (again.resolve {} text).dialogue = (resolver.resolve {} text).dialogue := by
  intro script resolver other again text queries marked answered
  have alike : resolver.service.AlikeBut 1 other := by
    refine ⟨rfl, fun _ _ => rfl, fun _ _ => rfl, fun past query ne => ?_⟩
    simp only [resolver, other, script, Service.scripted]
    generalize past.called.length = number at ne
    rcases number with _ | _ | n
    · rfl
    · exact absurd rfl ne
    · rfl
  have on : resolver.service.enabled = true := rfl
  have first : (resolver.resolve {} text).text = .ok marked := by decide +kernel
  have second : (again.resolve {} text).text = .ok answered := by decide +kernel
  obtain ⟨-, -, -, -, whole, -, runs⟩ := resolve_isolates on {} text
  refine ⟨on, alike, first, second, ?_, ((runs 1 other alike).2 _ _ first second).1⟩
  rcases whole with ⟨_, -, -, called⟩ | ⟨_, _, -, ended, -⟩
  · exact called
  · cases ended.symm.trans first

/-- A failure that carries a number of 4301 digits ends the run before the second directive has its
call, and a time that is such a number ends it where the time is up. -/
theorem not_resolve_of_long_failure :
    let failing : Resolver :=
      ⟨Service.scripted true [.error (.reported (.int (10 ^ 4300)))], .int 5, "Say hello"⟩
    let late : Resolver := ⟨Service.scripted true [], .int (-(10 ^ 4300)), "Say hello"⟩
    failing.service.enabled = true ∧ (Prompted.all "::ai hi\n::ai there").length = 2 ∧
      (¬ ∃ out, (failing.resolve {} "::ai hi\n::ai there").text = .ok out) ∧
      (failing.resolve {} "::ai hi\n::ai there").dialogue.called.length = 1 ∧
      late.service.enabled = true ∧ ¬ ∃ out, (late.resolve {} "::ai hi").text = .ok out := by
  intro failing late
  have ended : (failing.resolve {} "::ai hi\n::ai there").text = .error .tooLongToWrite := by
    decide +kernel
  have ended' : (late.resolve {} "::ai hi").text = .error .tooLongToWrite := by
    decide +kernel
  refine ⟨rfl, by decide +kernel, ?_, by decide +kernel, rfl, ?_⟩
  · rintro ⟨out, ok⟩
    cases ended.symm.trans ok
  · rintro ⟨out, ok⟩
    cases ended'.symm.trans ok

end Resolver
end PageDirectives
