import PageDirectives.Proofs.Directive.Reduction
import PageDirectives.Proofs.Directive.Registry
import PageDirectives.Proofs.Engine.Pass
/-!
Running the engine on a well nested outline is evaluating the outline from the inside out. The engine
knows no outlines: it goes over the lines once for each registration, and a block ends at the first
closing line. What carries the argument is that before each pass the lines are those of an outline
that is well nested for the registrations still to come. Among them the one that runs next finds its
blocks without directives in their bodies, so the first closing line is the right one.
-/
namespace PageDirectives

open Directive

namespace Registry

/-- What the handler of its name leaves in the place of an occurrence. -/
def outcome (registry : Registry) (o : Occurrence) : Text :=
  match registry.get? o.name with
  | some r => r.handler.outcome o
  | none => o.raw

/-- The handler of its name answers an occurrence with no line that starts as a directive does. -/
def AnswersQuietly (registry : Registry) (o : Occurrence) : Prop :=
  ∃ r ∈ registry.registrations, r.name = o.name ∧
    ∃ text, r.handler.answer? o = some text ∧ Quiet text

/-- The handler of its name fails on an occurrence. -/
def FailsOn (registry : Registry) (o : Occurrence) : Prop :=
  ∃ r ∈ registry.registrations, r.name = o.name ∧ r.handler.Fails o

instance (registry : Registry) (o : Occurrence) : Decidable (registry.AnswersQuietly o) :=
  decidable_of_iff (∃ r ∈ registry.registrations, r.name = o.name ∧
      (r.handler.answer? o).any (fun text => decide (Quiet text)) = true) (by
    simp only [AnswersQuietly, Option.any_eq_true, decide_eq_true_eq])

variable {registry : Registry} {o : Occurrence}

theorem WellFormed.outcome_eq (wf : registry.WellFormed) {r : Registration}
    (hr : r ∈ registry.registrations) (name : o.name = r.name) :
    registry.outcome o = r.handler.outcome o := by
  rw [outcome, name, wf.get?_eq hr]

theorem WellFormed.quiet_outcome (wf : registry.WellFormed) (h : registry.AnswersQuietly o) :
    Quiet (registry.outcome o) := by
  obtain ⟨r, hr, name, text, answer, quiet⟩ := h
  rwa [wf.outcome_eq hr name.symm, Handler.outcome_of_answer answer]

theorem WellFormed.settles (wf : registry.WellFormed) (h : registry.AnswersQuietly o)
    {r : Registration} (hr : r ∈ registry.registrations) (name : o.name = r.name) :
    r.handler.Settles o := by
  obtain ⟨s, hs, same, text, answer, -⟩ := h
  obtain rfl := wf.eq_of_name hs hr (same.trans name)
  exact Handler.settles_of_answer answer

theorem WellFormed.outcome_of_failsOn (wf : registry.WellFormed) (h : registry.FailsOn o) :
    registry.outcome o = o.raw := by
  obtain ⟨r, hr, name, failure, message, fails, worded⟩ := h
  rw [wf.outcome_eq hr name.symm, Handler.outcome_of_error fails]

theorem WellFormed.settles_of_failsOn (wf : registry.WellFormed) (h : registry.FailsOn o)
    {r : Registration} (hr : r ∈ registry.registrations) (name : o.name = r.name) :
    r.handler.Settles o := by
  obtain ⟨s, hs, same, fails⟩ := h
  obtain rfl := wf.eq_of_name hs hr (same.trans name)
  exact .inl fails

end Registry

namespace Engine

/-- Lines with some occurrences in them that every pass finds and leaves as they are. -/
structure Inert (page : Entries) (order : List Registration) (kept : List Text)
    (os : List Occurrence) : Prop where
  found : ∀ r ∈ order, ∀ form, r.forms.has form = true → ∀ later,
    (reader r.name page form).found (kept ++ later) =
      os.filter (·.name = r.name) ++ (reader r.name page form).found later
  exchange : ∀ r ∈ order, ∀ form, r.forms.has form = true → ∀ later,
    (reader r.name page form).exchange r.handler.outcome (kept ++ later) =
      kept ++ (reader r.name page form).exchange r.handler.outcome later
  oneForm : ∀ r ∈ order, ∀ o ∈ os, o.name = r.name → r.forms ≠ .both

theorem inert_nil (page : Entries) (order : List Registration) : Inert page order [] [] :=
  ⟨fun _ _ _ _ _ => rfl, fun _ _ _ _ _ => rfl, by simp⟩

theorem Inert.of_cons {page : Entries} {r : Registration} {order : List Registration}
    {kept : List Text} {os : List Occurrence} (h : Inert page (r :: order) kept os) :
    Inert page order kept os where
  found s hs := h.found s (List.mem_cons_of_mem r hs)
  exchange s hs := h.exchange s (List.mem_cons_of_mem r hs)
  oneForm s hs := h.oneForm s (List.mem_cons_of_mem r hs)

/-- The calls for some occurrences, each to the registration of its name. -/
def callsFor (order : List Registration) (os : List Occurrence) : List Call :=
  order.flatMap fun r => (os.filter (·.name = r.name)).map (Call.mk r.handler.origin)

theorem filter_name_ne {name other : Text} (ne : name ≠ other) (os : List Occurrence) :
    (os.filter (·.name ≠ other)).filter (·.name = name) = os.filter (·.name = name) := by
  rw [List.filter_filter]
  refine List.filter_congr fun o _ => ?_
  by_cases h : o.name = name <;> simp [h, ne]

/-- Each occurrence of a registered name is called for exactly once. -/
theorem callsFor_perm {order : List Registration} (distinct : (order.map (·.name)).Nodup)
    {os : List Occurrence} (registered : ∀ o ∈ os, o.name ∈ order.map (·.name)) :
    ((callsFor order os).map (·.occurrence)).Perm os := by
  induction order generalizing os with
  | nil =>
    have none : os = [] := List.eq_nil_iff_forall_not_mem.2 fun o ho => by
      simpa using registered o ho
    rw [none]
    exact List.Perm.refl _
  | cons r order ih =>
    have others : ∀ o ∈ os.filter (·.name ≠ r.name), o.name ∈ order.map (·.name) := by
      intro o ho
      obtain ⟨mem, ne⟩ := List.mem_filter.1 ho
      exact (List.mem_cons.1 (registered o mem)).resolve_left (of_decide_eq_true ne)
    have same : callsFor order (os.filter (·.name ≠ r.name)) = callsFor order os := by
      refine List.flatMap_congr fun s hs => ?_
      rw [filter_name_ne (Registry.name_ne_of_mem distinct hs)]
    have rest := ih distinct.of_cons others
    rw [same] at rest
    have own : ((os.filter (·.name = r.name)).map (Call.mk r.handler.origin)).map
        (·.occurrence) = os.filter (·.name = r.name) := by
      simp [List.map_map, Function.comp_def]
    rw [callsFor, List.flatMap_cons, List.map_append, own]
    have split := List.filter_append_perm (fun o : Occurrence => decide (o.name = r.name)) os
    refine (rest.append_left _).trans ?_
    simpa using split

section Underway

variable (page : Entries) (answer : Occurrence → Text) (order : List Registration)
  (kept : List Text) (os : List Occurrence) (front back : Outline)

/-- The lines of two outlines with other lines between them. -/
def around : List Text := front.written ++ (kept ++ back.written)

/-- The occurrences in two outlines and in the lines between them. -/
def aroundOccurrences : List Occurrence :=
  front.occurrences answer page ++ (os ++ back.occurrences answer page)

/-- What holds before each pass: the lines are those of two outlines that are well nested for the
registrations to come, with inert lines between them. -/
structure Underway : Prop where
  valid : ∀ r ∈ order, Text.isName r.name = true
  free : ∀ r ∈ order, isReserved r.name = false
  distinct : (order.map (·.name)).Nodup
  agree : ∀ r ∈ order, ∀ o : Occurrence, o.name = r.name → r.handler.outcome o = answer o
  inert : Inert page order kept os
  keptLines : Text.AreLines kept
  frontNested : front.WellNested order
  backNested : back.WellNested order
  quietFront : ∀ o ∈ front.occurrences answer page, Quiet (answer o)
  quietBack : ∀ o ∈ back.occurrences answer page, Quiet (answer o)
  settles : ∀ r ∈ order, ∀ o ∈ aroundOccurrences page answer os front back,
    o.name = r.name → r.handler.Settles o
  ne : around kept front back ≠ []

end Underway

def firstForm : Forms → Form
  | .block => .block
  | _ => .inline

namespace Underway

variable {page : Entries} {answer : Occurrence → Text} {r : Registration}
  {order : List Registration} {kept : List Text} {os : List Occurrence} {front back : Outline}

theorem lines (h : Underway page answer order kept os front back) :
    Text.AreLines (around kept front back) := by
  rw [around, Text.areLines_append, Text.areLines_append]
  exact ⟨Outline.areLines_written h.valid h.frontNested, h.keptLines,
    Outline.areLines_written h.valid h.backNested⟩

theorem pass (h : Underway page answer (r :: order) kept os front back) {form : Form}
    (has : r.forms.has form = true)
    (uniform : ∀ o ∈ front.occurrences answer page ++ back.occurrences answer page,
      o.name = r.name → o.form = form) :
    (reader r.name page form).found (around kept front back) =
        (aroundOccurrences page answer os front back).filter (·.name = r.name) ∧
      (reader r.name page form).exchange r.handler.outcome (around kept front back) =
        around kept (front.reduce answer page r.name) (back.reduce answer page r.name) := by
  have first : r ∈ r :: order := List.mem_cons_self
  rw [List.forall_mem_append] at uniform
  obtain ⟨foundFront, exchangedFront⟩ := Outline.pass_written h.valid (h.free r first) h.distinct
    (h.agree r first) h.frontNested uniform.1 (kept ++ back.written)
  obtain ⟨foundBack, exchangedBack⟩ := Outline.pass_written h.valid (h.free r first) h.distinct
    (h.agree r first) h.backNested uniform.2 []
  rw [List.append_nil] at foundBack exchangedBack
  rw [around, foundFront, exchangedFront, h.inert.found r first form has,
    h.inert.exchange r first form has, foundBack, exchangedBack]
  simp [around, aroundOccurrences]

/-- All occurrences of the name that runs next have the form that is tried first. -/
theorem uniform (h : Underway page answer (r :: order) kept os front back) :
    ∀ o ∈ front.occurrences answer page ++ back.occurrences answer page,
      o.name = r.name → o.form = firstForm r.forms := by
  intro o ho name
  have shape : o.form = .inline ∧ r.forms.has .inline = true ∨
      o.form = .block ∧ r.forms = .block := by
    rcases List.mem_append.1 ho with ho | ho
    · exact Outline.form_of_mem_occurrences h.distinct h.frontNested ho name
    · exact Outline.form_of_mem_occurrences h.distinct h.backNested ho name
  rcases shape with ⟨same, inline⟩ | ⟨same, block⟩
  · cases forms : r.forms <;> simp_all [firstForm, Forms.has]
  · rw [same, block]
    rfl

/-- Passes keep what holds before them for the registrations still to come. -/
theorem reduce (h : Underway page answer (r :: order) kept os front back) :
    Underway page answer order kept os (front.reduce answer page r.name)
      (back.reduce answer page r.name) := by
  have sub : ∀ {d : Outline}, d.WellNested (r :: order) →
      ∀ o ∈ (d.reduce answer page r.name).occurrences answer page, o ∈ d.occurrences answer page := by
    intro d nested o ho
    rw [Outline.occurrences_reduce h.distinct nested] at ho
    exact (List.mem_filter.1 ho).1
  have has : r.forms.has (firstForm r.forms) = true := by cases r.forms <;> rfl
  obtain ⟨-, exchanged⟩ := h.pass has h.uniform
  exact {
    valid := fun s hs => h.valid s (List.mem_cons_of_mem r hs)
    free := fun s hs => h.free s (List.mem_cons_of_mem r hs)
    distinct := h.distinct.of_cons
    agree := fun s hs => h.agree s (List.mem_cons_of_mem r hs)
    inert := h.inert.of_cons
    keptLines := h.keptLines
    frontNested := h.frontNested.reduce h.quietFront
    backNested := h.backNested.reduce h.quietBack
    quietFront := fun o ho => h.quietFront o (sub h.frontNested o ho)
    quietBack := fun o ho => h.quietBack o (sub h.backNested o ho)
    settles := by
      intro s hs o ho
      refine h.settles s (List.mem_cons_of_mem r hs) o ?_
      simp only [aroundOccurrences, List.mem_append] at ho ⊢
      exact ho.imp (sub h.frontNested o) (Or.imp_right (sub h.backNested o))
    ne := exchanged ▸ LineReader.exchange_ne_nil _ _ h.ne }

/-- Once its occurrences are exchanged, a registration that is tried in both forms finds nothing
in the second. -/
theorem pass_again (h : Underway page answer (r :: order) kept os front back)
    (forms : r.forms = .both) :
    (applyForm r page (Text.ofLines (around kept (front.reduce answer page r.name)
      (back.reduce answer page r.name))) .block).Yields
      (Text.ofLines (around kept (front.reduce answer page r.name)
        (back.reduce answer page r.name))) [] := by
  have first : r ∈ r :: order := List.mem_cons_self
  have newlineFree := Text.newline_notMem_of_isName (h.valid r first)
  have next := h.reduce
  have sub : order.Sublist (r :: order) := List.sublist_cons_self r order
  have gone : ∀ {d : Outline}, d.WellNested (r :: order) →
      ∀ o ∈ (d.reduce answer page r.name).occurrences answer page, o.name ≠ r.name := by
    intro d nested o ho
    rw [Outline.occurrences_reduce h.distinct nested] at ho
    exact of_decide_eq_true (List.mem_filter.1 ho).2
  have has : r.forms.has .block = true := by rw [forms]; rfl
  obtain ⟨foundFront, -⟩ := Outline.pass_written h.valid (h.free r first) h.distinct
    (h.agree r first) (next.frontNested.mono sub)
    (fun o ho name => absurd name (gone h.frontNested o ho))
    (kept ++ (back.reduce answer page r.name).written)
  obtain ⟨foundBack, -⟩ := Outline.pass_written h.valid (h.free r first) h.distinct
    (h.agree r first) (next.backNested.mono sub)
    (fun o ho name => absurd name (gone h.backNested o ho)) []
  refine applyForm_idle newlineFree page .block next.lines next.ne ?_
  rw [List.append_nil] at foundBack
  rw [around, foundFront, h.inert.found r first .block has, foundBack, LineReader.found_nil]
  simp only [List.append_nil, List.append_eq_nil_iff, List.filter_eq_nil_iff, decide_eq_true_eq]
  exact ⟨gone h.frontNested, fun o ho name => h.inert.oneForm r first o ho name forms,
    gone h.backNested⟩

theorem run_forms (h : Underway page answer (r :: order) kept os front back)
    {others : List (Registration × Form)} {out : Text} {calls : List Call}
    (rest : Run page others (Text.ofLines (around kept (front.reduce answer page r.name)
      (back.reduce answer page r.name))) out calls) :
    Run page (r.forms.list.map (r, ·) ++ others) (Text.ofLines (around kept front back)) out
      (((aroundOccurrences page answer os front back).filter (·.name = r.name)).map
        (Call.mk r.handler.origin) ++ calls) := by
  have first : r ∈ r :: order := List.mem_cons_self
  have newlineFree := Text.newline_notMem_of_isName (h.valid r first)
  have has : r.forms.has (firstForm r.forms) = true := by cases r.forms <;> rfl
  obtain ⟨found, exchanged⟩ := h.pass has h.uniform
  have step := applyForm_yields newlineFree page (firstForm r.forms) h.lines h.ne (by
    rw [found]
    intro o ho
    obtain ⟨mem, name⟩ := List.mem_filter.1 ho
    exact h.settles r first o mem (of_decide_eq_true name))
  rw [found, exchanged] at step
  cases forms : r.forms with
  | inline =>
    rw [forms] at step
    exact Run.pass step rest
  | block =>
    rw [forms] at step
    exact Run.pass step rest
  | both =>
    rw [forms] at step
    exact Run.pass step (Run.pass (h.pass_again forms) rest)

theorem callsFor_reduce (h : Underway page answer (r :: order) kept os front back) :
    callsFor order (aroundOccurrences page answer os (front.reduce answer page r.name)
      (back.reduce answer page r.name)) =
        callsFor order (aroundOccurrences page answer os front back) := by
  rw [aroundOccurrences, aroundOccurrences, Outline.occurrences_reduce h.distinct h.frontNested,
    Outline.occurrences_reduce h.distinct h.backNested, callsFor, callsFor]
  refine List.flatMap_congr fun s hs => ?_
  have ne := Registry.name_ne_of_mem h.distinct hs
  simp only [List.filter_append, filter_name_ne ne]

/-- All passes together evaluate the two outlines and leave the lines between them. -/
theorem run (h : Underway page answer order kept os front back) :
    Run page (passes order) (Text.ofLines (around kept front back))
      (Text.ofLines (front.evaluated answer page ++ (kept ++ back.evaluated answer page)))
      (callsFor order (aroundOccurrences page answer os front back)) := by
  induction order generalizing front back with
  | nil =>
    have frontNone := h.frontNested.names_eq_nil
    have backNone := h.backNested.names_eq_nil
    rw [Outline.evaluated_eq_written frontNone, Outline.evaluated_eq_written backNone]
    exact Run.done _
  | cons r order ih =>
    have rest := ih h.reduce
    rw [Outline.evaluated_reduce, Outline.evaluated_reduce, h.callsFor_reduce] at rest
    exact h.run_forms rest

end Underway

theorem settled_of_quiet (policy : LeftoverPolicy) {text : Text} (quiet : Quiet text) :
    settled policy text = text := by
  cases policy with
  | warn => rfl
  | strip => rw [settled, leftovers_of_quiet quiet, if_pos rfl]

section Registry

variable {engine : Engine} (page : Entries)

theorem underway_of_wellFormed (wf : engine.registry.WellFormed) {kept : List Text}
    {os : List Occurrence} {front back : Outline}
    (inert : Inert page engine.registry.sorted kept os) (keptLines : Text.AreLines kept)
    (frontNested : front.WellNested engine.registry.sorted)
    (backNested : back.WellNested engine.registry.sorted)
    (fails : ∀ o ∈ os, engine.registry.FailsOn o)
    (quietFront : ∀ o ∈ front.occurrences engine.registry.outcome page,
      engine.registry.AnswersQuietly o)
    (quietBack : ∀ o ∈ back.occurrences engine.registry.outcome page,
      engine.registry.AnswersQuietly o)
    (ne : around kept front back ≠ []) :
    Underway page engine.registry.outcome engine.registry.sorted kept os front back where
  valid := wf.isName_of_mem_sorted
  free r hr := wf.notReserved r (Registry.mem_sorted.1 hr)
  distinct := wf.sorted_distinct
  agree r hr o name := (wf.outcome_eq (Registry.mem_sorted.1 hr) name).symm
  inert := inert
  keptLines := keptLines
  frontNested := frontNested
  backNested := backNested
  quietFront o ho := wf.quiet_outcome (quietFront o ho)
  quietBack o ho := wf.quiet_outcome (quietBack o ho)
  settles r hr o ho name := by
    have hr := Registry.mem_sorted.1 hr
    simp only [aroundOccurrences, List.mem_append] at ho
    rcases ho with ho | ho | ho
    · exact wf.settles (quietFront o ho) hr name
    · exact wf.settles_of_failsOn (fails o ho) hr name
    · exact wf.settles (quietBack o ho) hr name
  ne := ne

theorem run_wellNested (wf : engine.registry.WellFormed) (d : Outline)
    (nested : d.WellNested engine.registry.sorted)
    (quiet : ∀ o ∈ d.occurrences engine.registry.outcome page,
      engine.registry.AnswersQuietly o) :
    Run page (passes engine.registry.sorted) (Text.ofLines d.written)
      (Text.ofLines (d.evaluated engine.registry.outcome page))
      (callsFor engine.registry.sorted (d.occurrences engine.registry.outcome page)) := by
  have nonempty : ∀ d : Outline, d.WellNested engine.registry.sorted → d.written ≠ [] →
      (∀ o ∈ d.occurrences engine.registry.outcome page, engine.registry.AnswersQuietly o) →
      Run page (passes engine.registry.sorted) (Text.ofLines d.written)
        (Text.ofLines (d.evaluated engine.registry.outcome page))
        (callsFor engine.registry.sorted (d.occurrences engine.registry.outcome page)) := by
    intro d nested ne quiet
    have start := underway_of_wellFormed page wf (inert_nil page _) Text.areLines_nil nested
      (show Outline.empty.WellNested _ from trivial) (by simp) quiet (by simp [Outline.occurrences])
      (by simpa [around, Outline.written] using ne)
    have run := start.run
    simpa [around, aroundOccurrences, Outline.written, Outline.evaluated, Outline.occurrences]
      using run
  by_cases ne : d.written = []
  · -- no lines and one empty line are the same text
    cases d with
    | empty =>
      exact nonempty (.line [] .empty) ⟨⟨List.not_mem_nil, rfl⟩, trivial⟩
        (List.cons_ne_nil _ _) (by simp [Outline.occurrences])
    | _ => simp [Outline.written] at ne
  · exact nonempty d nested ne quiet

/-- On a well nested outline with quiet answers the engine's result is the evaluation from the inside
out, under either policy, and its calls are those that the evaluation makes: one for each directive,
a block with its evaluated body. -/
theorem process_wellNested (wf : engine.registry.WellFormed) {d : Outline}
    (nested : d.WellNested engine.registry.sorted)
    (quiet : ∀ o ∈ d.occurrences engine.registry.outcome page,
      engine.registry.AnswersQuietly o) :
    let run := process engine page (Text.ofLines d.written)
    run.result = .ok (Text.ofLines (d.evaluated engine.registry.outcome page)) ∧
      run.trace.calls =
        callsFor engine.registry.sorted (d.occurrences engine.registry.outcome page) ∧
      (run.trace.calls.map (·.occurrence)).Perm (d.occurrences engine.registry.outcome page) ∧
      d.plainLines.Sublist (d.evaluated engine.registry.outcome page) := by
  have done := process_yields (run_wellNested page wf d nested quiet)
  have unmarked := Outline.isMarked_of_mem_evaluated nested
    fun o ho => wf.quiet_outcome (quiet o ho)
  rw [settled_of_quiet _ (quiet_ofLines (Outline.areLines_evaluated nested) unmarked)] at done
  refine ⟨done.result, done.calls, ?_, Outline.plainLines_sublist_evaluated d⟩
  rw [done.calls]
  refine callsFor_perm wf.sorted_distinct fun o ho => ?_
  exact Outline.mem_order_of_mem_names nested (Outline.name_mem_of_mem_occurrences ho)

end Registry

/-- Blocks in a block, one of them with an inline directive in it, and lines between all of them. -/
theorem process_wellNested_grid :
    let wrap (before behind : String) : Handler :=
      ⟨.builtIn, fun o => .ok (.text (before.toList ++ o.args ++ o.content ++ behind.toList))⟩
    let engine : Engine := ⟨{ registrations := [⟨"tag", .both, 10, wrap "#" ""⟩,
      ⟨"card", .block, 20, wrap "(" ")"⟩, ⟨"grid", .block, 20, wrap "[" "]"⟩] }, .strip, "---"⟩
    let card : Outline := .block "card" [] (.inline "tag" " x".toList .empty) .empty
    let d : Outline := .line "a".toList (.block "grid" " 2".toList
      (.line "b".toList (.block "card" " c".toList .empty card)) (.line "d".toList .empty))
    Text.ofLines d.written =
        "a\n::grid 2\nb\n::card c\n::end\n::card\n::tag x\n::end\n::end\nd".toList ∧
      Text.ofLines (d.evaluated engine.registry.outcome []) = "a\n[2b\n(c)\n(#x)]\nd".toList ∧
      engine.registry.WellFormed ∧ d.WellNested engine.registry.sorted ∧
      (∀ o ∈ d.occurrences engine.registry.outcome [], engine.registry.AnswersQuietly o) ∧
      let run := process engine [] (Text.ofLines d.written)
      run.result = .ok (Text.ofLines (d.evaluated engine.registry.outcome [])) ∧
        run.trace.calls =
          callsFor engine.registry.sorted (d.occurrences engine.registry.outcome []) ∧
        (run.trace.calls.map (·.occurrence)).Perm (d.occurrences engine.registry.outcome []) ∧
        d.plainLines.Sublist (d.evaluated engine.registry.outcome []) := by
  intro wrap engine card d
  have wf : engine.registry.WellFormed := ⟨by decide, by decide, by decide⟩
  have nested : d.WellNested engine.registry.sorted := by
    rw [Registry.sorted_of_pairwise (by decide)]
    decide
  have quiet : ∀ o ∈ d.occurrences engine.registry.outcome [],
      engine.registry.AnswersQuietly o := by decide +kernel
  exact ⟨by decide, by decide +kernel, wf, nested, quiet, process_wellNested [] wf nested quiet⟩

end Engine
end PageDirectives
