import PageDirectives.Proofs.Engine.LongAnswers
import PageDirectives.Proofs.Text.Weave
/-!
Handlers that fail. A failure that can be written into the log costs one line there and nothing
else: the occurrence stays as it is written, and so does everything around it. A pass only changes
the spans of the occurrences that are answered, and a run in which nothing is answered but what
stands there already changes nothing. A failure that cannot be written ends the pass and the run.
-/
namespace PageDirectives

open Directive

namespace Traced

variable {α β : Type}

/-- A step that has a certain result if all its calls have a property. -/
def ReturnsIf (P : Call → Prop) (a : α) (x : Traced α) : Prop :=
  (∀ c ∈ x.trace.calls, P c) → x.result = .ok a

namespace ReturnsIf

variable {P : Call → Prop}

theorem ofPure (a : α) : ReturnsIf P a (Pure.pure a) := fun _ => rfl

theorem bind {x : Traced α} {f : α → Traced β} {a : α} {b : β} (hx : ReturnsIf P a x)
    (hf : ReturnsIf P b (f a)) : ReturnsIf P b (x >>= f) := by
  intro all
  have first : x.result = .ok a := hx fun c hc => all c (mem_calls_bind hc)
  obtain ⟨trace, result⟩ := bind_of_ok (f := f) first
  rw [result]
  refine hf fun c hc => all c ?_
  rw [trace, Trace.calls_append]
  exact List.mem_append_right _ hc

theorem foldlM {f : α → β → Traced α} {bs : List β} {a : α}
    (step : ∀ b ∈ bs, ReturnsIf P a (f a b)) : ReturnsIf P a (bs.foldlM f a) := by
  induction bs with
  | nil => exact ofPure a
  | cons b bs ih =>
    rw [List.foldlM_cons]
    exact (step b List.mem_cons_self).bind (ih fun c hc => step c (List.mem_cons_of_mem b hc))

end ReturnsIf

/-- The errors that a step reports are those of its calls, each once and in order. -/
def Reports (note? : Occurrence → Option Note) (x : Traced α) : Prop :=
  Engine.errorNotes x.trace.notes = x.trace.calls.filterMap fun c => note? c.occurrence

theorem Reports.composable (note? : Occurrence → Option Note) :
    Composable fun _ => Reports note? where
  pure _ := rfl
  log notes quiet := List.filter_eq_nil_iff.2 fun note hn => by simpa using quiet note hn
  bind {_ _ x f} hx hf := by
    cases hr : x.result with
    | error e =>
      rw [Reports, (bind_of_error hr).1]
      exact hx
    | ok a =>
      rw [Reports, (bind_of_ok hr).1, Trace.notes_append, Trace.calls_append, Engine.errorNotes,
        List.filter_append, List.filterMap_append]
      exact congrArg₂ (· ++ ·) hx (hf a)

end Traced

/-- A handler fails on an occurrence, or answers with the occurrence as it is written. -/
def Handler.Keeps (h : Handler) (o : Occurrence) : Prop :=
  (∃ failure, h.run o = .error failure) ∨ h.answer? o = some o.raw

theorem Handler.Keeps.outcome_eq {h : Handler} {o : Occurrence} (keeps : h.Keeps o) :
    h.outcome o = o.raw := by
  rcases keeps with ⟨failure, fails⟩ | answer
  · exact outcome_of_error fails
  · exact outcome_of_answer answer

instance (h : Handler) (o : Occurrence) : Decidable (h.Keeps o) :=
  decidable_of_iff ((h.run o).isOk = false ∨ h.answer? o = some o.raw) (by
    rw [Handler.Keeps]
    cases h.run o <;> simp [Except.isOk, Except.toBool])

namespace Registry

/-- The handler of its name keeps an occurrence. -/
def Keeps (registry : Registry) (o : Occurrence) : Prop :=
  ∃ r ∈ registry.registrations, r.name = o.name ∧ r.handler.Keeps o

instance (registry : Registry) (o : Occurrence) : Decidable (registry.Keeps o) :=
  inferInstanceAs (Decidable (∃ r ∈ registry.registrations, r.name = o.name ∧ r.handler.Keeps o))

/-- A call keeps its occurrence, and what it may fail with can be written. -/
def KeepsQuietly (registry : Registry) (c : Call) : Prop :=
  registry.Keeps c.occurrence ∧ ¬ registry.GivesNoText c.occurrence

/-- What the failure of the handler of its name reports for an occurrence. -/
def failureNote? (registry : Registry) (o : Occurrence) : Option Note :=
  (registry.get? o.name).bind (Engine.failureNote? · o)

end Registry

namespace Engine

theorem replacement_reports (r : Registration) {note? : Occurrence → Option Note} {o : Occurrence}
    (same : note? o = failureNote? r o) : (replacement r o).Reports note? := by
  obtain ⟨calls, notes, -⟩ := replacement_eq r o
  rw [Traced.Reports, calls, notes, ← same]
  cases h : note? o <;> simp [h]

theorem process_reports {engine : Engine} (wf : engine.registry.WellFormed) (page : Entries)
    (text : Text) : (process engine page text).Reports engine.registry.failureNote? := by
  refine process_induction (Traced.Reports.composable _) (fun r hr form text s hs => ?_) text
  refine replacement_reports r ?_
  rw [Registry.failureNote?, name_of_mem_scan (wf.newline_notMem hr) hs, wf.get?_eq hr]
  rfl

theorem behind_scan_filter {name : Text} (free : '\n' ∉ name) (text : Text)
    (form : Form) (page : Entries) (p : Occurrence → Bool) (image : Occurrence → Text)
    (kept : ∀ s ∈ scan text name form page, p s.found = false → image s.found = s.found.raw) :
    Splice.behind text 0 (((scan text name form page).filter (p ·.found)).map fun s =>
        ((s.start, s.stop), image s.found)) =
      Splice.behind text 0 ((scan text name form page).map fun s =>
        ((s.start, s.stop), image s.found)) := by
  refine Splice.behind_filter text (p ·.found) (image ·.found)
    (fun s hs => ⟨Nat.zero_le _, Nat.le_of_lt (placed_of_mem_scan free hs).1⟩)
    (Search.all_pairwise text) fun s hs left => ?_
  rw [kept s hs left, (placed_of_mem_scan free hs).2.2]

section Kept

variable {registry : Registry} (wf : registry.WellFormed) {r : Registration}
  (hr : r ∈ registry.registrations)

include wf hr

theorem replacement_returnsIf {o : Occurrence} (name : o.name = r.name) :
    (replacement r o).ReturnsIf registry.KeepsQuietly o.raw := by
  intro all
  rw [(replacement_eq r o).1, List.forall_mem_singleton] at all
  obtain ⟨⟨s, hs, same, keeps⟩, written⟩ := all
  obtain rfl := wf.eq_of_name hs hr (same.trans name)
  rw [wf.givesNoText_iff hs name, ← Handler.settles_iff] at written
  rw [(replacement_yields written).result, keeps.outcome_eq]

theorem replacements_returnsIf {os : List Occurrence} (names : ∀ o ∈ os, o.name = r.name) :
    (replacements r os).ReturnsIf registry.KeepsQuietly (os.map (·.raw)) := by
  induction os with
  | nil => exact Traced.ReturnsIf.ofPure []
  | cons o os ih =>
    obtain ⟨name, names⟩ := List.forall_mem_cons.1 names
    exact (replacement_returnsIf wf hr name).bind
      ((ih names).bind (Traced.ReturnsIf.ofPure _))

theorem applyForm_returnsIf (page : Entries) (text : Text) (form : Form) :
    (applyForm r page text form).ReturnsIf registry.KeepsQuietly text := by
  have free := wf.newline_notMem hr
  have kept : Splice.behind text 0 ((scan text r.name form page).map fun s =>
      ((s.start, s.stop), s.found.raw)) = text := by
    -- none of the occurrences need be spliced
    rw [← behind_scan_filter free text form page (fun _ => false) (·.raw) fun _ _ _ => rfl]
    simp [Splice.behind]
  have names : ∀ s ∈ scan text r.name form page, s.found.name = r.name := fun s hs =>
    name_of_mem_scan free hs
  rw [applyForm]
  generalize scan text r.name form page = hits at kept names
  cases hits with
  | nil => exact Traced.ReturnsIf.ofPure text
  | cons hit hits =>
    refine Traced.ReturnsIf.bind (fun _ => rfl) ?_
    refine (replacements_returnsIf wf hr (List.forall_mem_map.2 names)).bind fun _ => ?_
    rw [List.map_map, List.zip_map']
    exact congrArg Except.ok kept

end Kept

theorem process_returnsIf {engine : Engine} (wf : engine.registry.WellFormed)
    (warn : engine.policy = .warn) (page : Entries) (text : Text) :
    (process engine page text).ReturnsIf engine.registry.KeepsQuietly text := by
  refine Traced.ReturnsIf.bind (Traced.ReturnsIf.foldlM fun r hr => ?_) fun _ => ?_
  · exact Traced.ReturnsIf.foldlM fun form _ =>
      applyForm_returnsIf wf (Registry.mem_sorted.1 hr) page text form
  · rw [warn]
    exact (settle_yields .warn text).result

/-- A pass changes the spans of the occurrences that are answered, and nothing else. -/
theorem applyForm_eq_weave {r : Registration} (free : '\n' ∉ r.name) {page : Entries} {text : Text}
    {form : Form} (settles : ∀ s ∈ scan text r.name form page, r.handler.Settles s.found) :
    let answered := (scan text r.name form page).filter fun s => (r.handler.answer? s.found).isSome
    let gaps := Splice.gaps text 0 (answered.map fun s => (s.start, s.stop))
    Splice.weave gaps (answered.map (·.found.raw)) = text ∧
      (applyForm r page text form).result =
        .ok (Splice.weave gaps (answered.map fun s => r.handler.outcome s.found)) := by
  intro answered gaps
  have sub : ∀ s ∈ answered, s ∈ scan text r.name form page := fun s hs => (List.mem_filter.1 hs).1
  constructor
  · have slices : answered.map (·.found.raw) =
        (answered.map fun s => (s.start, s.stop)).map fun s => Text.slice text s.1 s.2 := by
      rw [List.map_map]
      exact List.map_congr_left fun s hs => (placed_of_mem_scan free (sub s hs)).2.2.symm
    rw [slices]
    refine Splice.weave_slices text (List.forall_mem_map.2 fun s hs => ?_) (List.pairwise_map.2 ?_)
    · exact ⟨Nat.zero_le _, Nat.le_of_lt (placed_of_mem_scan free (sub s hs)).1⟩
    · exact (Search.all_pairwise text).filter _
  · rw [(applyForm_splices settles).result, ← behind_scan_filter free text form page
      (fun o => (r.handler.answer? o).isSome) r.handler.outcome, ← List.zip_map',
      Splice.behind_zip text 0 (by simp)]
    intro s hs unanswered
    have none : r.handler.answer? s.found = none := by simpa using unanswered
    rw [Handler.outcome, none, Option.getD_none]

/-- Failures that can be written are contained. A run that warns, and in which every handler fails or
answers with the occurrence as it is written, has its text as the result if and only if no failure is
one that cannot be written, and no result otherwise. A pass whose handler gives something that cannot
be written has no result; any other fails on some occurrences and answers the others, and it changes
the spans of those that are answered and nothing else. Every failure that can be written is reported
by one error in the log, in a pass and in a run in the order of the calls, and a pass calls in
document order. -/
theorem process_contains_failures {engine : Engine} (wf : engine.registry.WellFormed)
    (page : Entries) (text : Text) :
    let run := process engine page text
    (engine.policy = .warn → (∀ c ∈ run.trace.calls, engine.registry.Keeps c.occurrence) →
        (run.result = .ok text ↔
            ∀ c ∈ run.trace.calls, ¬ engine.registry.GivesNoText c.occurrence) ∧
          (run.result = .error .tooLongToWrite ↔
            ∃ c ∈ run.trace.calls, engine.registry.GivesNoText c.occurrence)) ∧
      errorNotes run.trace.notes =
        run.trace.calls.filterMap (fun c => engine.registry.failureNote? c.occurrence) ∧
      ∀ r ∈ engine.registry.registrations, ∀ form current,
        let hits := scan current r.name form page
        let pass := applyForm r page current form
        errorNotes pass.trace.notes =
            pass.trace.calls.filterMap (fun c => failureNote? r c.occurrence) ∧
          (hits.Pairwise fun s t => s.stop ≤ t.start) ∧
          ((∃ s ∈ hits, r.handler.GivesNoText s.found) → pass.result = .error .tooLongToWrite) ∧
          ((∀ s ∈ hits, ¬ r.handler.GivesNoText s.found) →
            let answered := hits.filter fun s => (r.handler.answer? s.found).isSome
            let gaps := Splice.gaps current 0 (answered.map fun s => (s.start, s.stop))
            Splice.weave gaps (answered.map (·.found.raw)) = current ∧
              pass.result =
                .ok (Splice.weave gaps (answered.map fun s => r.handler.outcome s.found)) ∧
              pass.trace.calls = hits.map fun s => ⟨r.handler.origin, s.found⟩) := by
  intro run
  refine ⟨fun warn keeps => ?_, process_reports wf page text, fun r hr form current => ?_⟩
  · have returns := process_returnsIf wf warn page text
    cases process_endsAtFirst wf page text with
    | done out result good =>
      have whole : run.result = .ok text := returns fun c hc => ⟨keeps c hc, good c hc⟩
      refine ⟨iff_of_true whole good, iff_of_false (by simp [whole]) ?_⟩
      rintro ⟨c, hc, bad⟩
      exact good c hc bad
    | ended before last result calls _ meets =>
      have mem : last ∈ run.trace.calls := calls ▸ List.mem_append_right before List.mem_cons_self
      refine ⟨iff_of_false ?_ fun good => good last mem meets, iff_of_true result ⟨last, mem, meets⟩⟩
      rw [show run.result = _ from result]
      simp
  · intro hits pass
    refine ⟨?_, Search.all_pairwise current, fun bad => ?_, fun good => ?_⟩
    · exact applyForm_induction (Traced.Reports.composable _) fun s _ => replacement_reports r rfl
    · rcases applyForm_refusedIf r page current form with ⟨-, result⟩ | ⟨none, -⟩
      · exact result
      · exact absurd bad none
    · have settles : ∀ s ∈ hits, r.handler.Settles s.found := fun s hs =>
        Handler.settles_iff.2 (good s hs)
      obtain ⟨whole, result⟩ := applyForm_eq_weave (wf.newline_notMem hr) settles
      exact ⟨whole, result, (applyForm_splices settles).calls⟩

/-- A run on occurrences that are all kept, and a pass that fails on the second of three. -/
theorem process_contains_failures_of_tag :
    let tag : Handler := ⟨.custom none, fun o =>
      if o.args = "no".toList then .error (.reported (.text "none"))
      else .ok (.text ('#' :: o.args))⟩
    let box : Handler := ⟨.builtIn, fun o => .ok (.text o.raw)⟩
    let registered : Registration := ⟨"tag", .inline, 10, tag⟩
    let engine : Engine :=
      ⟨{ registrations := [registered, ⟨"box", .both, 20, box⟩] }, .warn, "---"⟩
    let text : Text := "::tag no\na\n::box 2\n::tag no\n::end\n::box b"
    let current : Text := "::tag x\na\n::tag no\n::tag y"
    let note : Note := .diagnostic .error "Error in ::tag handler: none"
    let run := process engine [] text
    let pass := applyForm registered [] current .inline
    engine.registry.WellFormed ∧ engine.policy = .warn ∧
      (∀ c ∈ run.trace.calls, engine.registry.Keeps c.occurrence) ∧
      run.result = .ok text ∧ errorNotes run.trace.notes = [note, note] ∧
      (∀ s ∈ scan current "tag" .inline [], ¬ tag.GivesNoText s.found) ∧
      pass.result = .ok "#x\na\n::tag no\n#y".toList ∧ errorNotes pass.trace.notes = [note] := by
  intro tag box registered engine text current note run pass
  have wf : engine.registry.WellFormed := ⟨by decide, by decide, by decide⟩
  have sorted : engine.registry.sorted = engine.registry.registrations :=
    Registry.sorted_of_pairwise (by decide)
  have written : ∀ s ∈ scan current "tag" .inline [], ¬ tag.GivesNoText s.found := by
    decide +kernel
  have keeps : ∀ c ∈ run.trace.calls, engine.registry.Keeps c.occurrence := by
    simp only [run, process, expand, sorted]
    decide +kernel
  have good : ∀ c ∈ run.trace.calls, ¬ engine.registry.GivesNoText c.occurrence := by
    simp only [run, process, expand, sorted]
    decide +kernel
  obtain ⟨kept, reported, passes⟩ := process_contains_failures wf [] text
  obtain ⟨passReported, -, -, answers⟩ := passes registered List.mem_cons_self .inline current
  obtain ⟨-, result, -⟩ := answers written
  refine ⟨wf, rfl, keeps, (kept rfl keeps).1.2 good, reported.trans ?_, written, result.trans ?_,
    passReported.trans ?_⟩
  · simp only [process, expand, sorted]
    decide +kernel
  · decide +kernel
  · decide +kernel

/-- The handler of the one directive always fails, with a key of 4301 digits that the page does not
have. The run warns and keeps its calls, and has no result and no error in its log. -/
theorem not_process_contains_failures :
    let lost : Handler := ⟨.custom none, fun _ => .error (.absentKey (.int (10 ^ 4300)))⟩
    let engine : Engine := ⟨{ registrations := [⟨"lost", .inline, 100, lost⟩] }, .warn, "---"⟩
    let run := process engine [] "a\n::lost x"
    (∀ o, ∃ failure, lost.run o = .error failure) ∧
      (∀ c ∈ run.trace.calls, engine.registry.Keeps c.occurrence) ∧
      run.trace.calls.length = 1 ∧ run.result = .error .tooLongToWrite ∧
      ¬ run.result = .ok "a\n::lost x".toList ∧ errorNotes run.trace.notes = [] := by
  intro lost engine run
  have sorted : engine.registry.sorted = engine.registry.registrations :=
    Registry.sorted_of_pairwise (by decide)
  have result : run.result = .error .tooLongToWrite := by
    simp only [run, process, expand, sorted]
    decide +kernel
  refine ⟨fun o => ⟨_, rfl⟩, ?_, ?_, result, by simp [result], ?_⟩
  all_goals
    simp only [run, process, expand, sorted]
    decide +kernel

end Engine
end PageDirectives
