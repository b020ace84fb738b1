import PageDirectives.Proofs.Completion.BlankPrompts
import PageDirectives.Proofs.Completion.Disabled
/-!
What comes back for a request to a model may be anything. A router reports every transport that
fails with what can be written, every reply that holds no content and every content that counts as
false; what is left is passed on as it is. So a call ends with a text or with a report, unless the
content counts as true and is no text, or the transport fails with what cannot be written. Of such a
content nothing is written in the place of the directive, and that is the only way for a directive
to vanish.
-/
namespace PageDirectives

namespace Router

/-- The two ways in which a call is to end: a text that is not empty, and a report. -/
inductive EndsWell : Except Failure Value → Prop
  | text {s : Text} (filled : s ≠ []) : EndsWell (.ok (.text s))
  | report (message : Text) : EndsWell (.error (.reported (.text message)))

/-- A call that gets a reply: it has a key, and its request can be built. -/
structure Gets (router : Router) (transport : Transport) (past : Dialogue) (query : Query)
    (reply : Reply) : Prop where
  key : router.apiKey.isTruthy = true
  built : ∃ request, router.request query = .ok request
  reply : transport past.sent.length = reply

/-- A call that gets a value which counts as true and is no text. -/
structure GetsOther (router : Router) (transport : Transport) (past : Dialogue) (query : Query)
    (v : Value) : Prop where
  gets : Gets router transport past query (.content v)
  counts : v.isTruthy = true
  other : ∀ s, v ≠ .text s

/-- A call whose transport fails with something that cannot be written. -/
def GetsUnworded (router : Router) (transport : Transport) (past : Dialogue) (query : Query) :
    Prop :=
  ∃ f : Failure, Gets router transport past query (.failed f) ∧ f.HasLong

theorem endsWell_ok_iff {v : Value} (counts : v.isTruthy = true) :
    EndsWell (.ok v) ↔ ∃ s, v = .text s := by
  constructor
  · rintro ⟨-⟩
    exact ⟨_, rfl⟩
  · rintro ⟨s, rfl⟩
    refine .text fun empty => ?_
    rw [empty] at counts
    exact Bool.noConfusion counts

theorem report_cases (f : Failure) : (f.HasLong ∧ report f = .number .tooLongToWrite) ∨
    (¬ f.HasLong ∧ ∃ message, report f = .reported (.text message)) := by
  rcases f.message_refusedIf with ⟨long, none⟩ | ⟨short, message, worded⟩
  · exact .inl ⟨long, by rw [report, none]⟩
  · exact .inr ⟨short, message, by rw [report, worded]⟩

/-- A request that cannot be built is reported. -/
theorem not_hasLong_of_request {router : Router} {query : Query} {f : Failure}
    (h : router.request query = .error f) : ¬ f.HasLong := by
  have kinds : (∃ e, f = .number e) ∨ ∃ kind, f = .notIterable kind := by
    simp only [request] at h
    cases model : (((query.options.at? "model").getD .null).unlessFalse router.model).display with
    | error e =>
      rw [model] at h
      exact .inl ⟨e, (Except.error.inj h).symm⟩
    | ok text =>
      simp only [model, Failure.ofNumber, Except.mapError, bind, Except.bind] at h
      split at h
      · split at h
        · cases h
        · exact .inr ⟨_, (Except.error.inj h).symm⟩
      · cases h
  rcases kinds with ⟨e, rfl⟩ | ⟨kind, rfl⟩ <;> exact not_false

/-- What a reply becomes: its content if that counts as true, and a report in all other cases but
that of a failure without a wording. -/
theorem contentOf_cases (reply : Reply) :
    (∃ v, reply = .content v ∧ v.isTruthy = true ∧ contentOf reply = .ok v) ∨
      (∃ f, reply = .failed f ∧ f.HasLong ∧
        contentOf reply = .error (.number .tooLongToWrite)) ∨
      (∀ v, reply = .content v → v.isTruthy = false) ∧ (∀ f, reply = .failed f → ¬ f.HasLong) ∧
        ∃ message, contentOf reply = .error (.reported (.text message)) := by
  cases reply with
  | malformed => exact .inr (.inr ⟨nofun, nofun, _, rfl⟩)
  | failed f =>
    rcases report_cases f with ⟨long, none⟩ | ⟨short, message, worded⟩
    · exact .inr (.inl ⟨f, rfl, long, by rw [contentOf, none]⟩)
    · refine .inr (.inr ⟨nofun, fun g same => ?_, message, by rw [contentOf, worded]⟩)
      rwa [← Reply.failed.inj same]
  | content v =>
    cases counts : v.isTruthy with
    | true => exact .inl ⟨v, rfl, counts, by rw [contentOf, if_pos counts]⟩
    | false =>
      refine .inr (.inr ⟨fun w h => Reply.content.inj h ▸ counts, nofun, ?_⟩)
      rw [contentOf, counts, if_neg Bool.false_ne_true]
      exact ⟨_, rfl⟩

variable {router : Router} {transport : Transport} {past : Dialogue} {query : Query}

/-- A call comes to what the reply to its request does; without a reply it reports. -/
theorem outcome_cases (router : Router) (transport : Transport) (past : Dialogue) (query : Query) :
    (Gets router transport past query (transport past.sent.length) ∧
        (router.answer transport past query).outcome = contentOf (transport past.sent.length)) ∨
      (∀ reply, ¬ Gets router transport past query reply) ∧
        ∃ message, (router.answer transport past query).outcome =
          .error (.reported (.text message)) := by
  unfold answer
  cases key : router.apiKey.isTruthy with
  | false => exact .inr ⟨fun reply got => Bool.false_ne_true (key.symm.trans got.key), _, rfl⟩
  | true =>
    simp only [Bool.not_true, Bool.false_eq_true, if_false]
    cases built : router.request query with
    | ok request => exact .inl ⟨⟨key, ⟨request, built⟩, rfl⟩, rfl⟩
    | error f =>
      refine .inr ⟨fun reply got => ?_, ?_⟩
      · obtain ⟨request, other⟩ := got.built
        cases built.symm.trans other
      · have worded := not_hasLong_of_request built
        obtain ⟨message, same⟩ := ((report_cases f).resolve_left fun long => worded long.1).2
        exact ⟨message, congrArg Except.error same⟩

theorem outcome_of_gets {reply : Reply} (got : Gets router transport past query reply) :
    (router.answer transport past query).outcome = contentOf reply := by
  rcases outcome_cases router transport past query with ⟨-, outcome⟩ | ⟨none, -⟩
  · rw [outcome, got.reply]
  · exact absurd got (none reply)

theorem outcome_of_getsOther {v : Value} (got : GetsOther router transport past query v) :
    (router.answer transport past query).outcome = .ok v := by
  rw [outcome_of_gets got.gets, contentOf, if_pos got.counts]

theorem outcome_of_getsUnworded (got : GetsUnworded router transport past query) :
    (router.answer transport past query).outcome = .error (.number .tooLongToWrite) := by
  obtain ⟨f, gets, long⟩ := got
  rw [outcome_of_gets gets, contentOf, ((report_cases f).resolve_right fun short => short.1 long).2]

/-- A call passes on the content of the reply or reports, unless the transport fails with what
cannot be written; there is no fourth way for it to end. -/
theorem answer_cases (router : Router) (transport : Transport) (past : Dialogue) (query : Query) :
    (∃ v, (router.answer transport past query).outcome = .ok v ∧ v.isTruthy = true ∧
        ((∃ s, v = .text s) ∨ GetsOther router transport past query v)) ∨
      GetsUnworded router transport past query ∨
      (∀ v, ¬ GetsOther router transport past query v) ∧
        ¬ GetsUnworded router transport past query ∧
        ∃ message, (router.answer transport past query).outcome =
          .error (.reported (.text message)) := by
  rcases outcome_cases router transport past query with ⟨gets, outcome⟩ | ⟨none, message, outcome⟩
  · rw [outcome]
    rcases contentOf_cases (transport past.sent.length) with
      ⟨v, reply, counts, content⟩ | ⟨f, reply, long, -⟩ | ⟨falsy, worded, message, content⟩
    · refine .inl ⟨v, content, counts, ?_⟩
      by_cases text : ∃ s, v = .text s
      · exact .inl text
      · exact .inr ⟨reply ▸ gets, counts, not_exists.1 text⟩
    · exact .inr (.inl ⟨f, reply ▸ gets, long⟩)
    · refine .inr (.inr ⟨fun v got => ?_, ?_, message, content⟩)
      · exact Bool.false_ne_true ((falsy v got.gets.reply).symm.trans got.counts)
      · rintro ⟨f, got, long⟩
        exact worded f got.reply long
  · refine .inr (.inr ⟨fun v got => none _ got.gets, ?_, message, outcome⟩)
    rintro ⟨f, got, -⟩
    exact none _ got

/-- A call ends with a text or a report exactly if it gets nothing else that counts as true, and no
failure that cannot be written. -/
theorem endsWell_iff : EndsWell (router.answer transport past query).outcome ↔
    (∀ v, ¬ GetsOther router transport past query v) ∧
      ¬ GetsUnworded router transport past query := by
  rcases answer_cases router transport past query with
    ⟨v, outcome, counts, read⟩ | unworded | ⟨none, worded, message, outcome⟩
  · rw [outcome, endsWell_ok_iff counts]
    constructor
    · rintro ⟨s, rfl⟩
      refine ⟨fun w got => ?_, fun got => ?_⟩
      · obtain rfl := Except.ok.inj (outcome.symm.trans (outcome_of_getsOther got))
        exact got.other s rfl
      · cases outcome.symm.trans (outcome_of_getsUnworded got)
    · exact fun none => read.resolve_right (none.1 v)
  · rw [outcome_of_getsUnworded unworded]
    exact iff_of_false nofun fun none => none.2 unworded
  · rw [outcome]
    exact iff_of_true (.report message) ⟨none, worded⟩

end Router

namespace Resolver

theorem errorMark_ne_nil (message : Text) (isBlock : Bool) : errorMark message isBlock ≠ [] :=
  List.cons_ne_nil _ _

theorem disabledMark_ne_nil (isBlock : Bool) : disabledMark isBlock ≠ [] := List.cons_ne_nil _ _

/-- What stands in the place of a directive is what the step after those before it gives. -/
theorem step_of_steps {resolver : Resolver} {past : Dialogue} {ps : List Prompted}
    {texts : List Text} (h : (resolver.steps past ps).texts = .ok texts) {i : Nat} {p : Prompted}
    {place : Text} (directive : ps[i]? = some p) (written : texts[i]? = some place) :
    (resolver.step (resolver.steps past (ps.take i)).dialogue p).text = .ok place := by
  induction ps generalizing past texts i with
  | nil => simp at directive
  | cons first rest ih =>
    cases step : (resolver.step past first).text with
    | error e => cases (steps_cons_of_error step rest).1.symm.trans h
    | ok text =>
      rw [(steps_cons_of_ok step rest).1] at h
      cases others : (resolver.steps (resolver.step past first).dialogue rest).texts with
      | error e => simp [others, Except.map] at h
      | ok later =>
        rw [others] at h
        obtain rfl : text :: later = texts := Except.ok.inj h
        cases i with
        | zero =>
          obtain rfl := Option.some.inj directive
          obtain rfl := Option.some.inj written
          exact step
        | succ i =>
          rw [List.take_succ_cons, (steps_cons_of_ok step (rest.take i)).2]
          exact ih others directive written

section Step

variable {resolver : Resolver}

theorem outcomeText_error {isBlock : Bool} {f : Failure} {place : Text}
    (h : resolver.outcomeText isBlock (.error f) = .ok place) :
    ∃ message, place = errorMark message isBlock := by
  rw [outcomeText] at h
  cases reason : resolver.reason f with
  | error e =>
    rw [reason] at h
    cases h
  | ok message =>
    rw [reason] at h
    exact ⟨message, (Except.ok.inj h).symm⟩

variable (resolver) in
theorem not_unwritten_of_isExpired {f : Failure} (h : isExpired resolver.timeout = .error f) :
    ¬ resolver.Unwritten (.error f) := by
  cases timeout : resolver.timeout with
  | bool b => simp [timeout, isExpired] at h
  | float x => simp [timeout, isExpired] at h
  | int n =>
    rw [timeout, isExpired] at h
    split at h
    · cases h
    · cases double : Double.ofInt n with
      | ok x => simp [double, Failure.ofNumber, Except.map, Except.mapError] at h
      | error e =>
        rw [double] at h
        obtain rfl := Except.error.inj h
        exact not_false
  | _ =>
    rw [timeout] at h
    obtain rfl := Except.error.inj h
    exact not_false

/-- What all calls have in common some call has, if there is one. -/
theorem exists_attempt_iff {P : Except Failure Value → Prop} {c : Prop}
    (all : ∀ past query, P (resolver.attempt past query).outcome ↔ c) (past : Dialogue)
    (queries : List Query) :
    (∃ call ∈ resolver.attempts past queries, P call.outcome) ↔ queries ≠ [] ∧ c := by
  induction queries generalizing past with
  | nil => simp [attempts]
  | cons query rest ih =>
    rw [attempts_cons, List.exists_mem_cons_iff, all, ih]
    simp only [ne_eq, reduceCtorEq, not_false_eq_true, true_and, or_iff_left_iff_imp]
    exact And.right

end Step

section Routed

variable (router : Router) (transport : Transport) (timeout : Value) (defaultPrompt : Text)

/-- The resolver that asks a router. -/
def routed : Resolver := ⟨router.service transport, timeout, defaultPrompt⟩

variable {router transport timeout defaultPrompt}

/-- A call to a router is work that is waited for. -/
theorem attempt_routed (past : Dialogue) (query : Query) :
    ((routed router transport timeout defaultPrompt).attempt past query).outcome =
      match isExpired timeout with
      | .ok false => (router.answer transport past query).outcome
      | .ok true => .error (.timedOut (.text []))
      | .error failure => .error failure := by
  have waits : (router.answer transport past query).delivery = .awaited := by
    rw [Router.answer]
    split
    · rfl
    · split <;> rfl
  simp only [attempt, routed, Router.service, waits]
  cases isExpired timeout with
  | error failure => rfl
  | ok expired => cases expired <;> rfl

theorem unwritten_routed_iff (past : Dialogue) (query : Query) :
    let resolver := routed router transport timeout defaultPrompt
    resolver.Unwritten (resolver.attempt past query).outcome ↔
      isExpired timeout = .ok true ∧ timeout.HasLong := by
  intro resolver
  rw [attempt_routed]
  rcases late : isExpired timeout with failure | _ | _
  · exact iff_of_false (resolver.not_unwritten_of_isExpired late) (by simp)
  · refine iff_of_false ?_ (by simp)
    rcases router.answer_cases transport past query with
      ⟨v, outcome, -⟩ | unworded | ⟨-, -, message, outcome⟩
    · rw [outcome]
      exact not_false
    · rw [Router.outcome_of_getsUnworded unworded]
      exact not_false
    · rw [outcome]
      simp [Unwritten, Failure.HasLong, Value.HasLong, Value.wholes]
  · simp [Unwritten, resolver, routed]

/-- A run has a text unless there is no time for its calls and the time cannot be written. -/
theorem resolve_routed_ok_iff (past : Dialogue) (text : Text) :
    let resolver := routed router transport timeout defaultPrompt
    (∃ out, (resolver.resolve past text).text = .ok out) ↔
      ¬ (Prompted.all text ≠ [] ∧ router.enabled = true ∧ isExpired timeout = .ok true ∧
        timeout.HasLong) := by
  intro resolver
  cases on : router.enabled with
  | false =>
    have off : resolver.service.enabled = false := on
    obtain ⟨written, -⟩ := resolve_of_off off past text
    exact iff_of_true ⟨_, written⟩ (by simp)
  | true =>
    have all : (∃ call ∈ resolver.attempts past
        ((Prompted.all text).map (·.found.query resolver.defaultPrompt)),
          resolver.Unwritten call.outcome) ↔ _ :=
      exists_attempt_iff unwritten_routed_iff past _
    have live : resolver.service.enabled = true := on
    rw [resolve_ok_iff live]
    simpa using not_congr all

/-- What takes the place of a directive: a mark if it is not asked for, and else what its call comes
to. -/
theorem place_routed {past : Dialogue} {p : Prompted} {place : Text}
    (h : ((routed router transport timeout defaultPrompt).step past p).text = .ok place) :
    let resolver := routed router transport timeout defaultPrompt
    (¬ resolver.Asks → place ≠ []) ∧
      (resolver.Asks → resolver.outcomeText p.isBlock
        (router.answer transport past (p.query defaultPrompt)).outcome = .ok place) := by
  intro resolver
  cases on : resolver.service.enabled with
  | false =>
    rw [(step_of_off on past p).1] at h
    refine ⟨fun _ => ?_, fun asks => absurd asks.1 (by simp [on])⟩
    rw [← Except.ok.inj h]
    exact disabledMark_ne_nil _
  | true =>
    rw [(step_of_enabled on past p).1, attempt_routed] at h
    rcases late : isExpired timeout with failure | _ | _
    all_goals rw [late] at h
    · refine ⟨fun _ => ?_, fun asks => ?_⟩
      · obtain ⟨message, rfl⟩ := outcomeText_error h
        exact errorMark_ne_nil _ _
      · cases late.symm.trans asks.2
    · exact ⟨fun silent => absurd ⟨on, late⟩ silent, fun _ => h⟩
    · refine ⟨fun _ => ?_, fun asks => ?_⟩
      · obtain ⟨message, rfl⟩ := outcomeText_error h
        exact errorMark_ne_nil _ _
      · cases late.symm.trans asks.2

/-- A directive vanishes exactly if it is asked for and its call gets a value that counts as true
and is no text. -/
theorem place_eq_nil_iff {past : Dialogue} {p : Prompted} {place : Text}
    (h : ((routed router transport timeout defaultPrompt).step past p).text = .ok place) :
    place = [] ↔ (routed router transport timeout defaultPrompt).Asks ∧
      ∃ v, router.GetsOther transport past (p.query defaultPrompt) v := by
  obtain ⟨marked, answered⟩ := place_routed h
  by_cases asks : (routed router transport timeout defaultPrompt).Asks
  · have place := answered asks
    rw [and_iff_right asks]
    rcases router.answer_cases transport past (p.query defaultPrompt) with
      ⟨v, outcome, counts, ⟨s, rfl⟩ | got⟩ | unworded | ⟨none, -, message, outcome⟩
    · rw [outcome] at place
      obtain rfl := Except.ok.inj place
      constructor
      · rintro rfl
        exact Bool.noConfusion counts
      · rintro ⟨w, got⟩
        obtain rfl := Except.ok.inj (outcome.symm.trans (Router.outcome_of_getsOther got))
        exact absurd rfl (got.other s)
    · rw [outcome] at place
      refine iff_of_true ?_ ⟨v, got⟩
      cases v with
      | text s => exact absurd rfl (got.other s)
      | _ => exact (Except.ok.inj place).symm
    · have outcome := Router.outcome_of_getsUnworded unworded
      rw [outcome] at place
      obtain ⟨message, rfl⟩ := outcomeText_error place
      refine iff_of_false (errorMark_ne_nil _ _) ?_
      rintro ⟨v, got⟩
      cases outcome.symm.trans (Router.outcome_of_getsOther got)
    · rw [outcome] at place
      obtain ⟨message, rfl⟩ := outcomeText_error place
      exact iff_of_false (errorMark_ne_nil _ _) (not_exists.2 none)
  · exact iff_of_false (marked asks) fun both => asks both.1

/-- Whatever a router is made of and however requests come out, a call ends with a text that is not
empty or with a report, unless it gets a value that counts as true and is no text, which it passes
on, or its transport fails with something that cannot be written. A text whose directives are
resolved has a result unless there is no time for them and the time cannot be written. Then each of
them has one place: of those that are asked for, a text that comes back stands in it and so does the
mark of a failure, and exactly those whose call gets such another value leave it empty. -/
theorem routed_vanishes_iff (router : Router) (transport : Transport) (timeout : Value)
    (defaultPrompt : Text) :
    (∀ past query,
      let outcome := (router.answer transport past query).outcome
      (Router.EndsWell outcome ↔ (∀ v, ¬ router.GetsOther transport past query v) ∧
          ¬ router.GetsUnworded transport past query) ∧
        (∀ v, router.GetsOther transport past query v → outcome = .ok v) ∧
        (router.GetsUnworded transport past query →
          outcome = .error (.number .tooLongToWrite))) ∧
    ∀ past text,
      let resolver := routed router transport timeout defaultPrompt
      let ps := (Prompted.all text).map (·.found)
      ((∃ out, (resolver.resolve past text).text = .ok out) ↔
        ¬ (ps ≠ [] ∧ router.enabled = true ∧ isExpired timeout = .ok true ∧ timeout.HasLong)) ∧
      ∀ out, (resolver.resolve past text).text = .ok out →
        ∃ places, places.length = ps.length ∧ out = Splice.weave (Prompted.gaps text) places ∧
          ∀ i p place, ps[i]? = some p → places[i]? = some place →
            let before := (resolver.steps past (ps.take i)).dialogue
            let query := p.query defaultPrompt
            let outcome := (router.answer transport before query).outcome
            (place = [] ↔ resolver.Asks ∧ ∃ v, router.GetsOther transport before query v) ∧
              (resolver.Asks → (∀ s, outcome = .ok (.text s) → place = s) ∧
                ∀ failure message, outcome = .error failure → failure.message = .ok message →
                  place = errorMark message p.isBlock) := by
  refine ⟨fun past query => ⟨Router.endsWell_iff, fun v => Router.outcome_of_getsOther,
    Router.outcome_of_getsUnworded⟩, fun past text => ?_⟩
  intro resolver ps
  refine ⟨by simpa [ps] using resolve_routed_ok_iff past text, fun out ok => ?_⟩
  obtain ⟨texts, run, length, woven⟩ := exists_texts ok
  refine ⟨texts, by rw [length, List.length_map], woven, ?_⟩
  intro i p place directive written before query outcome
  have step := step_of_steps run directive written
  refine ⟨place_eq_nil_iff step, fun asks => ?_⟩
  have place := (place_routed step).2 asks
  refine ⟨fun s answered => ?_, fun failure message failed worded => ?_⟩
  · rw [show (router.answer transport before query).outcome = _ from answered] at place
    exact (Except.ok.inj place).symm
  · rw [show (router.answer transport before query).outcome = _ from failed] at place
    rcases router.answer_cases transport before query with
      ⟨v, passed, -⟩ | unworded | ⟨-, -, report, reported⟩
    · cases failed.symm.trans passed
    · have same := failed.symm.trans (Router.outcome_of_getsUnworded unworded)
      obtain rfl := Except.error.inj same
      obtain rfl := Except.ok.inj worded
      exact (Except.ok.inj place).symm
    · obtain rfl := Except.error.inj (failed.symm.trans reported)
      obtain rfl := Except.ok.inj worded
      exact (Except.ok.inj place).symm

/-- A list with a number in it is passed on by a call, and the directive that asked is gone. -/
theorem not_endsWell :
    let router := Router.make { apiKey := .text "k", enabled := .bool true } {}
    let resolver := routed router (fun _ => .content (.list [.int 1])) (.int 60) "Say hello"
    resolver.Asks ∧
      ¬ Router.EndsWell (resolver.service.answer {} ⟨"hi", []⟩).outcome ∧
      (Prompted.all "::ai hi").length = 1 ∧ (resolver.resolve {} "::ai hi").text = .ok [] := by
  intro router resolver
  have asks : resolver.Asks := ⟨by decide +kernel, rfl⟩
  have passed : (resolver.service.answer {} ⟨"hi", []⟩).outcome = .ok (.list [.int 1]) := by
    rfl
  refine ⟨asks, ?_, by decide +kernel, by decide +kernel⟩
  rw [passed]
  nofun

end Routed
end Resolver
end PageDirectives
