import PageDirectives.Proofs.Directive.Opening
import PageDirectives.Proofs.Directive.Registry
import PageDirectives.Proofs.Engine.LongAnswers
/-!
Registries of inline directives. Each of them is a line, a line is a directive of one name at most,
and if no answer has a line that starts as a directive does, no pass makes work for another. So the
passes over the whole text come to one map over its lines, in which the order of the registrations
and their priorities play no part. The map is not total: a line whose handler fails with what cannot
be written ends the run, whatever the order.
-/
namespace PageDirectives

open Directive

namespace Registration

/-- What a registration is but for its priority. -/
def face (r : Registration) : Text × Forms × Handler := (r.name, r.forms, r.handler)

theorem exists_of_face_perm {order other : List Registration}
    (perm : (other.map face).Perm (order.map face)) {s : Registration} (hs : s ∈ other) :
    ∃ r ∈ order, r.name = s.name ∧ r.forms = s.forms ∧ r.handler = s.handler := by
  obtain ⟨r, hr, same⟩ := List.mem_map.1 (perm.subset (List.mem_map_of_mem hs))
  rw [face, face, Prod.mk.injEq, Prod.mk.injEq] at same
  exact ⟨r, hr, same⟩

end Registration

/-- On every occurrence a handler fails or answers with no line that starts as a directive does. -/
def Handler.FailsOrQuiet (h : Handler) : Prop :=
  ∀ o, (∃ failure, h.run o = .error failure) ∨ ∃ text, h.answer? o = some text ∧ Quiet text

/-- Registrations of inline directives that make no directives. -/
structure InlineOnly (order : List Registration) : Prop where
  valid : ∀ r ∈ order, Text.isName r.name = true
  distinct : (order.map (·.name)).Nodup
  inline : ∀ r ∈ order, r.forms = .inline
  quiet : ∀ r ∈ order, r.handler.FailsOrQuiet

/-- What becomes of a line: the outcome of the registration that it is a directive of, if one is. -/
def lineOutcome (page : Entries) : List Registration → Text → Text
  | [], line => line
  | r :: order, line =>
    match inlineRest? r.name line with
    | some rest => r.handler.outcome (inlineOccurrence page r.name rest)
    | none => lineOutcome page order line

/-- For a line that is a directive of a registration, its handler gives what has no text. -/
def NoTextFor (page : Entries) (order : List Registration) (line : Text) : Prop :=
  ∃ r ∈ order, ∃ rest ∈ inlineRest? r.name line,
    r.handler.GivesNoText (inlineOccurrence page r.name rest)

instance (page : Entries) (order : List Registration) (line : Text) :
    Decidable (NoTextFor page order line) :=
  inferInstanceAs (Decidable (∃ r ∈ order, ∃ rest ∈ inlineRest? r.name line,
    r.handler.GivesNoText (inlineOccurrence page r.name rest)))

section Lines

variable {page : Entries} {order other : List Registration} {line : Text}

theorem lineOutcome_cons_of_none {r : Registration} (h : inlineRest? r.name line = none) :
    lineOutcome page (r :: order) line = lineOutcome page order line := by
  rw [lineOutcome, h]

theorem lineOutcome_cons_of_some {r : Registration} {rest : Text}
    (h : inlineRest? r.name line = some rest) : lineOutcome page (r :: order) line =
      r.handler.outcome (inlineOccurrence page r.name rest) := by
  rw [lineOutcome, h]

theorem lineOutcome_of_none (none : ∀ r ∈ order, inlineRest? r.name line = none) :
    lineOutcome page order line = line := by
  induction order with
  | nil => rfl
  | cons r order ih =>
    rw [lineOutcome_cons_of_none (none r List.mem_cons_self)]
    exact ih fun s hs => none s (List.mem_cons_of_mem r hs)

theorem InlineOnly.of_cons {r : Registration} (h : InlineOnly (r :: order)) : InlineOnly order where
  valid s hs := h.valid s (List.mem_cons_of_mem r hs)
  distinct := h.distinct.of_cons
  inline s hs := h.inline s (List.mem_cons_of_mem r hs)
  quiet s hs := h.quiet s (List.mem_cons_of_mem r hs)

theorem InlineOnly.of_perm (h : InlineOnly order)
    (perm : (other.map Registration.face).Perm (order.map Registration.face)) :
    InlineOnly other where
  valid s hs := by
    obtain ⟨r, hr, name, -, -⟩ := Registration.exists_of_face_perm perm hs
    exact name ▸ h.valid r hr
  distinct := by
    have names := perm.map Prod.fst
    rw [List.map_map, List.map_map] at names
    exact names.nodup_iff.2 h.distinct
  inline s hs := by
    obtain ⟨r, hr, -, forms, -⟩ := Registration.exists_of_face_perm perm hs
    exact forms ▸ h.inline r hr
  quiet s hs := by
    obtain ⟨r, hr, -, -, handler⟩ := Registration.exists_of_face_perm perm hs
    exact handler ▸ h.quiet r hr

/-- A line is a directive of one name at most. -/
theorem InlineOnly.inlineRest?_of_ne (h : InlineOnly order) {r s : Registration} (hr : r ∈ order)
    (hs : s ∈ order) (ne : s.name ≠ r.name) {rest : Text}
    (claims : inlineRest? r.name line = some rest) : inlineRest? s.name line = none := by
  obtain ⟨rfl, blank⟩ := inlineRest?_eq_some_iff.1 claims
  have unread : reader s.name [] .inline (openingLine r.name rest) [] = none :=
    reader_openingLine_of_ne (h.valid s hs) (h.valid r hr) ne (nameEnds_of_isInlineTail blank) []
  exact (inlineLine_eq_none_iff [] []).1 unread

theorem InlineOnly.lineOutcome_of_some (h : InlineOnly order) {r : Registration} (hr : r ∈ order)
    {rest : Text} (claims : inlineRest? r.name line = some rest) :
    lineOutcome page order line = r.handler.outcome (inlineOccurrence page r.name rest) := by
  induction order with
  | nil => simp at hr
  | cons first order ih =>
    rcases List.mem_cons.1 hr with rfl | mem
    · exact lineOutcome_cons_of_some claims
    · have ne : first.name ≠ r.name := (Registry.name_ne_of_mem h.distinct mem).symm
      rw [lineOutcome_cons_of_none (h.inlineRest?_of_ne hr List.mem_cons_self ne claims)]
      exact ih h.of_cons mem

/-- Neither priorities nor the order of the registrations matter to a line. -/
theorem InlineOnly.lineOutcome_eq_of_perm (h : InlineOnly order)
    (perm : (other.map Registration.face).Perm (order.map Registration.face)) :
    lineOutcome page other = lineOutcome page order := by
  funext line
  by_cases none : ∀ r ∈ order, inlineRest? r.name line = none
  · rw [lineOutcome_of_none none]
    refine lineOutcome_of_none fun s hs => ?_
    obtain ⟨r, hr, name, -, -⟩ := Registration.exists_of_face_perm perm hs
    exact name ▸ none r hr
  · push Not at none
    obtain ⟨r, hr, claimed⟩ := none
    obtain ⟨rest, claims⟩ := Option.ne_none_iff_exists'.1 claimed
    obtain ⟨s, hs, name, -, handler⟩ := Registration.exists_of_face_perm perm.symm hr
    rw [h.lineOutcome_of_some hr claims,
      (h.of_perm perm).lineOutcome_of_some hs (name.symm ▸ claims), name, handler]

theorem noTextFor_cons {r : Registration} : NoTextFor page (r :: order) line ↔
    NoTextFor page [r] line ∨ NoTextFor page order line := by
  simp [NoTextFor]

theorem noTextFor_eq_of_perm
    (perm : (other.map Registration.face).Perm (order.map Registration.face)) :
    NoTextFor page other = NoTextFor page order := by
  have sub {order other : List Registration} {line : Text}
      (perm : (other.map Registration.face).Perm (order.map Registration.face))
      (bad : NoTextFor page other line) : NoTextFor page order line := by
    obtain ⟨s, hs, rest, claims, none⟩ := bad
    obtain ⟨r, hr, name, -, handler⟩ := Registration.exists_of_face_perm perm hs
    exact ⟨r, hr, rest, name ▸ claims, by rwa [handler, name]⟩
  exact funext fun line => propext ⟨sub perm, sub perm.symm⟩

/-- What a pass leaves of a line that it claims is claimed by no other. -/
theorem InlineOnly.unclaimed_left (page : Entries) {r : Registration}
    (h : InlineOnly (r :: order))
    (free : '\n' ∉ line) {rest : Text} (claims : inlineRest? r.name line = some rest) :
    ∀ l ∈ line :: Text.lines (r.handler.outcome (inlineOccurrence page r.name rest)),
      ∀ s ∈ order, inlineRest? s.name l = none := by
  have own : ∀ s ∈ order, inlineRest? s.name line = none := fun s hs =>
    h.inlineRest?_of_ne List.mem_cons_self (List.mem_cons_of_mem r hs)
      (Registry.name_ne_of_mem h.distinct hs) claims
  refine List.forall_mem_cons.2 ⟨own, ?_⟩
  rcases h.quiet r List.mem_cons_self (inlineOccurrence page r.name rest) with
    ⟨failure, fails⟩ | ⟨text, answer, quiet⟩
  · -- the line itself is left
    have raw : (inlineOccurrence page r.name rest).raw = line :=
      (inlineRest?_eq_some_iff.1 claims).1.symm
    rw [Handler.outcome_of_error fails, raw, Text.lines_of_notMem free]
    exact List.forall_mem_singleton.2 own
  · -- an answer has no line that is a directive
    rw [Handler.outcome_of_answer answer]
    intro l hl s _
    rw [inlineRest?, after?_of_not_marked (quiet l hl)]
    rfl

/-- The lines that a pass makes of one line become what all registrations make of it. -/
theorem InlineOnly.flatMap_lineOutcome {r : Registration} (h : InlineOnly (r :: order))
    (free : '\n' ∉ line) :
    (Text.lines (lineOutcome page [r] line)).flatMap
        (fun l => Text.lines (lineOutcome page order l)) =
      Text.lines (lineOutcome page (r :: order) line) := by
  cases claims : inlineRest? r.name line with
  | none =>
    rw [lineOutcome_cons_of_none claims, lineOutcome_cons_of_none claims, lineOutcome,
      Text.lines_of_notMem free, List.flatMap_singleton]
  | some rest =>
    rw [lineOutcome_cons_of_some claims, lineOutcome_cons_of_some claims]
    refine Eq.trans (List.flatMap_congr fun l hl => ?_) (Text.flatMap_lines (Text.areLines_lines _))
    rw [lineOutcome_of_none (h.unclaimed_left page free claims l (List.mem_cons_of_mem line hl))]

theorem noTextFor_of_unclaimed (none : ∀ s ∈ order, inlineRest? s.name line = none) :
    ¬ NoTextFor page order line := by
  rintro ⟨s, hs, rest, claims, -⟩
  rw [none s hs] at claims
  cases claims

/-- A pass leaves those lines to the others that they give no text for. -/
theorem InlineOnly.noTextFor_left {r : Registration} (h : InlineOnly (r :: order))
    (free : '\n' ∉ line) :
    (∃ l ∈ Text.lines (lineOutcome page [r] line), NoTextFor page order l) ↔
      NoTextFor page order line := by
  cases claims : inlineRest? r.name line with
  | none =>
    rw [lineOutcome_cons_of_none claims, lineOutcome, Text.lines_of_notMem free]
    simp
  | some rest =>
    rw [lineOutcome_cons_of_some claims]
    obtain ⟨own, left⟩ := List.forall_mem_cons.1 (h.unclaimed_left page free claims)
    refine iff_of_false ?_ (noTextFor_of_unclaimed own)
    rintro ⟨l, hl, bad⟩
    exact noTextFor_of_unclaimed (left l hl) bad

variable (page) in
/-- A pass over lines: what it finds, and what it leaves. -/
theorem inlineLines (r : Registration) {lines : List Text} (ls : Text.AreLines lines) :
    (reader r.name page .inline).found lines =
        lines.filterMap (fun l => (inlineRest? r.name l).map (inlineOccurrence page r.name)) ∧
      (reader r.name page .inline).exchange r.handler.outcome lines =
        lines.flatMap fun l => Text.lines (lineOutcome page [r] l) := by
  induction lines with
  | nil => exact ⟨LineReader.found_nil, LineReader.exchange_nil⟩
  | cons line later ih =>
    obtain ⟨free, ls⟩ := Text.areLines_cons.1 ls
    rw [List.filterMap_cons, List.flatMap_cons, ← (ih ls).1, ← (ih ls).2]
    cases claims : inlineRest? r.name line with
    | none =>
      have unread := (inlineLine_eq_none_iff page later).2 claims
      rw [lineOutcome_cons_of_none claims, lineOutcome, Text.lines_of_notMem free]
      exact ⟨LineReader.found_of_none unread, LineReader.exchange_of_none unread⟩
    | some rest =>
      rw [lineOutcome_cons_of_some claims]
      obtain ⟨rfl, blank⟩ := inlineRest?_eq_some_iff.1 claims
      exact pass_inline r.handler.outcome later blank

variable (page) in
theorem exists_found_iff (r : Registration) {lines : List Text} (ls : Text.AreLines lines) :
    (∃ o ∈ (reader r.name page .inline).found lines, r.handler.GivesNoText o) ↔
      ∃ line ∈ lines, NoTextFor page [r] line := by
  rw [(inlineLines page r ls).1]
  simp only [List.mem_filterMap, Option.map_eq_some_iff, NoTextFor, List.mem_singleton,
    exists_eq_left, Option.mem_def]
  constructor
  · rintro ⟨_, ⟨line, hl, rest, claims, rfl⟩, bad⟩
    exact ⟨line, hl, rest, claims, bad⟩
  · rintro ⟨line, hl, rest, claims, bad⟩
    exact ⟨_, ⟨line, hl, rest, claims, rfl⟩, bad⟩

end Lines

namespace Engine

/-- One pass maps the lines, unless its handler gives what has no text for one of them. -/
theorem applyForms_inline {r : Registration} (free : '\n' ∉ r.name) (inline : r.forms = .inline)
    (page : Entries) {lines : List Text} (ls : Text.AreLines lines) (ne : lines ≠ []) :
    (applyForms r page (Text.ofLines lines)).result =
      if ∃ line ∈ lines, NoTextFor page [r] line then .error .tooLongToWrite
      else .ok (Text.ofLines (lines.flatMap fun l => Text.lines (lineOutcome page [r] l))) := by
  have whole : (applyForms r page (Text.ofLines lines)).result =
      (applyForm r page (Text.ofLines lines) .inline).result := by
    rw [applyForms, inline, show Forms.inline.list = [.inline] from rfl, List.foldlM_cons,
      Traced.result_bind]
    exact bind_pure _
  have reads := recogniser_reads free page .inline
  have scanned : (scan (Text.ofLines lines) r.name .inline page).map (·.found) =
      (reader r.name page .inline).found lines := by
    rw [scan, reads.all_eq, Text.lines_ofLines ls ne, LineReader.map_found_allFrom]
  have refused := applyForm_refusedIf r page (Text.ofLines lines) .inline
  have same : (∃ s ∈ scan (Text.ofLines lines) r.name .inline page,
      r.handler.GivesNoText s.found) ↔ ∃ line ∈ lines, NoTextFor page [r] line := by
    rw [← exists_found_iff page r ls, ← scanned]
    simp
  rw [same] at refused
  rw [whole]
  rcases refused with ⟨bad, result⟩ | ⟨good, -⟩
  · rw [result, if_pos bad]
  · rw [if_neg good, ← (inlineLines page r ls).2]
    refine (applyForm_yields free page .inline ls ne fun o ho => ?_).result
    exact Handler.settles_iff.2 fun bad => good ((exists_found_iff page r ls).1 ⟨o, ho, bad⟩)

/-- All passes map the lines, unless a handler gives what has no text for one of them. -/
theorem foldlM_inline (page : Entries) {order : List Registration} (only : InlineOnly order)
    {lines : List Text} (ls : Text.AreLines lines) (ne : lines ≠ []) :
    (order.foldlM (fun text r => applyForms r page text) (Text.ofLines lines)).result =
      if ∃ line ∈ lines, NoTextFor page order line then .error .tooLongToWrite
      else .ok (Text.ofLines (lines.flatMap fun l => Text.lines (lineOutcome page order l))) := by
  -- a pass leaves other lines, on which the passes to come run
  induction order generalizing lines with
  | nil =>
    have same : lines.flatMap (fun l => Text.lines (lineOutcome page [] l)) = lines :=
      Text.flatMap_lines ls
    rw [same, if_neg (by simp [NoTextFor])]
    rfl
  | cons r order ih =>
    have first : r ∈ r :: order := List.mem_cons_self
    have free := Text.newline_notMem_of_isName (only.valid r first)
    have ls' : Text.AreLines ((reader r.name page .inline).exchange r.handler.outcome lines) :=
      LineReader.areLines_exchange ls
    have ne' := LineReader.exchange_ne_nil (reader r.name page .inline) r.handler.outcome ne
    rw [(inlineLines page r ls).2] at ls' ne'
    rw [List.foldlM_cons, Traced.result_bind,
      applyForms_inline free (only.inline r first) page ls ne]
    by_cases bad : ∃ line ∈ lines, NoTextFor page [r] line
    · obtain ⟨line, hl, none⟩ := bad
      rw [if_pos ⟨line, hl, none⟩, if_pos ⟨line, hl, noTextFor_cons.2 (.inl none)⟩]
      rfl
    · have left : (∃ l ∈ lines.flatMap fun l => Text.lines (lineOutcome page [r] l),
          NoTextFor page order l) ↔ ∃ line ∈ lines, NoTextFor page (r :: order) line := by
        simp only [List.mem_flatMap]
        constructor
        · rintro ⟨l, ⟨line, hl, hmem⟩, none⟩
          have none := (only.noTextFor_left (ls line hl)).1 ⟨l, hmem, none⟩
          exact ⟨line, hl, noTextFor_cons.2 (.inr none)⟩
        · rintro ⟨line, hl, none⟩
          have none := (noTextFor_cons.1 none).resolve_left fun own => bad ⟨line, hl, own⟩
          obtain ⟨l, hmem, none⟩ := (only.noTextFor_left (ls line hl)).2 none
          exact ⟨l, ⟨line, hl, hmem⟩, none⟩
      rw [if_neg bad]
      refine (ih only.of_cons ls' ne').trans ?_
      simp only [left, List.flatMap_assoc]
      rw [List.flatMap_congr fun l hl => only.flatMap_lineOutcome (ls l hl)]

theorem process_lineOutcome {engine : Engine} (only : InlineOnly engine.registry.registrations)
    (page : Entries) (text : Text) :
    (process engine page text).result =
      if ∃ line ∈ Text.lines text, NoTextFor page engine.registry.registrations line then
        .error .tooLongToWrite
      else .ok (settled engine.policy (Text.ofLines
        ((Text.lines text).map (lineOutcome page engine.registry.registrations)))) := by
  have perm : (engine.registry.sorted.map Registration.face).Perm
      (engine.registry.registrations.map Registration.face) := (List.mergeSort_perm _ _).map _
  have passes := foldlM_inline page (only.of_perm perm) (Text.areLines_lines text)
    (Text.lines_ne_nil text)
  rw [Text.ofLines_lines, Text.ofLines_flatMap_lines, only.lineOutcome_eq_of_perm perm] at passes
  simp only [noTextFor_eq_of_perm perm] at passes
  rw [process, Traced.result_bind, expand, passes]
  split
  · rfl
  · exact (settle_yields engine.policy _).result

/-- An engine of inline directives whose handlers fail or answer with no line that starts as a
directive does has no result if what a handler fails with on a line of the text has no wording.
Otherwise it maps every line to the outcome of the registration it is a directive of, and settles
the rest. So its result does not depend on the priorities or the order of its registrations. -/
theorem process_inlineOnly {engine : Engine} (wf : engine.registry.WellFormed)
    (inline : ∀ r ∈ engine.registry.registrations, r.forms = .inline)
    (quiet : ∀ r ∈ engine.registry.registrations, r.handler.FailsOrQuiet) (page : Entries)
    (text : Text) :
    let mapped := (Text.lines text).map (lineOutcome page engine.registry.registrations)
    ((process engine page text).result =
        if ∃ line ∈ Text.lines text, NoTextFor page engine.registry.registrations line then
          .error .tooLongToWrite
        else (settle engine.policy (Text.ofLines mapped)).result) ∧
      (∃ out, (settle engine.policy (Text.ofLines mapped)).result = .ok out) ∧
      ∀ other : Engine, other.policy = engine.policy →
        (other.registry.registrations.map Registration.face).Perm
            (engine.registry.registrations.map Registration.face) →
          (process other page text).result = (process engine page text).result := by
  intro mapped
  have only : InlineOnly engine.registry.registrations := ⟨wf.isName, wf.distinct, inline, quiet⟩
  have result := process_lineOutcome only page text
  have rest := (settle_yields engine.policy (Text.ofLines mapped)).result
  refine ⟨by rw [result, rest], ⟨_, rest⟩, ?_⟩
  intro other policy perm
  rw [process_lineOutcome (only.of_perm perm), result, policy, only.lineOutcome_eq_of_perm perm]
  simp only [noTextFor_eq_of_perm perm]

/-- A handler that fails on some lines, one that answers with two lines, and one whose lines vanish,
in two registries that differ in order and priorities. -/
theorem process_inlineOnly_of_tags :
    let tag : Handler := ⟨.custom none, fun o =>
      if o.args = "no".toList then .error (.reported (.text "none")) else .ok (.text "a\nb".toList)⟩
    let gone : Handler := ⟨.custom none, fun _ => .ok .null⟩
    let engine : Engine :=
      ⟨{ registrations := [⟨"tag", .inline, 10, tag⟩, ⟨"gone", .inline, 20, gone⟩] }, .strip, "---"⟩
    let other : Engine :=
      ⟨{ registrations := [⟨"gone", .inline, 5, gone⟩, ⟨"tag", .inline, 5, tag⟩] }, .strip, "---"⟩
    let text : Text := "::tag x\n::gone ::tag y\n::tag no\n::tags z\nend"
    let mapped := (Text.lines text).map (lineOutcome [] engine.registry.registrations)
    engine.registry.WellFormed ∧ (∀ r ∈ engine.registry.registrations, r.forms = .inline) ∧
      (∀ r ∈ engine.registry.registrations, r.handler.FailsOrQuiet) ∧
      (¬ ∃ line ∈ Text.lines text, NoTextFor [] engine.registry.registrations line) ∧
      Text.ofLines mapped = "a\nb\n\n::tag no\n::tags z\nend".toList ∧
      (process engine [] text).result = (settle .strip (Text.ofLines mapped)).result ∧
      (process other [] text).result = (process engine [] text).result := by
  intro tag gone engine other text mapped
  have wf : engine.registry.WellFormed := ⟨by decide, by decide, by decide⟩
  have inline : ∀ r ∈ engine.registry.registrations, r.forms = .inline := by decide
  have quiet : ∀ r ∈ engine.registry.registrations, r.handler.FailsOrQuiet := by
    intro r hr o
    simp only [engine, List.mem_cons, List.not_mem_nil, or_false] at hr
    rcases hr with rfl | rfl
    · by_cases no : o.args = "no".toList
      · exact .inl ⟨_, if_pos no⟩
      · have answer : tag.run o = .ok (.text "a\nb".toList) := if_neg no
        exact .inr ⟨_, by rw [Handler.answer?, answer]; rfl, by decide⟩
    · exact .inr ⟨[], rfl, quiet_nil⟩
  have written : ¬ ∃ line ∈ Text.lines text, NoTextFor [] engine.registry.registrations line := by
    decide +kernel
  obtain ⟨result, -, same⟩ := process_inlineOnly wf inline quiet [] text
  rw [if_neg written] at result
  exact ⟨wf, inline, quiet, written, by decide +kernel, result, same other rfl
    (List.Perm.swap _ _ [])⟩

/-- The handler always fails, with a key of 4301 digits that the page does not have. The line map
leaves the text as it is, and the run has no result. -/
theorem not_process_inlineOnly :
    let lost : Handler := ⟨.custom none, fun _ => .error (.absentKey (.int (10 ^ 4300)))⟩
    let engine : Engine := ⟨{ registrations := [⟨"lost", .inline, 100, lost⟩] }, .warn, "---"⟩
    let text : Text := "a\n::lost x"
    let mapped := (Text.lines text).map (lineOutcome [] engine.registry.registrations)
    engine.registry.WellFormed ∧ lost.FailsOrQuiet ∧ Text.ofLines mapped = text ∧
      (settle .warn (Text.ofLines mapped)).result = .ok text ∧
      (process engine [] text).result = .error .tooLongToWrite ∧
      (process engine [] text).result ≠ (settle .warn (Text.ofLines mapped)).result := by
  intro lost engine text mapped
  have sorted : engine.registry.sorted = engine.registry.registrations :=
    Registry.sorted_of_pairwise (by decide)
  have settles : (settle .warn (Text.ofLines mapped)).result = .ok text := by decide +kernel
  have none : (process engine [] text).result = .error .tooLongToWrite := by
    simp only [process, expand, sorted]
    decide +kernel
  refine ⟨⟨by decide, by decide, by decide⟩, fun o => .inl ⟨_, rfl⟩, by decide +kernel, settles,
    none, ?_⟩
  rw [settles, none]
  simp

end Engine

end PageDirectives
