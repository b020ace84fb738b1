import PageDirectives.Layout.Monokai
import PageDirectives.Proofs.Directive.Sections
import PageDirectives.Proofs.Layout.Catalogue
import PageDirectives.Proofs.Layout.Frame
import PageDirectives.Transform
/-!
The delimiter of an engine and that of its layouts. Both come from one setting and one argument, but
the layouts take an empty argument for a delimiter and the engine takes it for none. So the two cut
texts alike unless that is what is given, or the setting is empty too.
-/
namespace PageDirectives

theorem Text.orElse_eq_getD {given : Option Text} {otherwise : Text}
    (h : given = some [] → otherwise = []) : orElse given otherwise = given.getD otherwise := by
  match given with
  | none => rfl
  | some [] => exact h rfl
  | some (_ :: _) => rfl

namespace Engine

open Directive Layout

/-- A handler answers for a layout with the sections that the helper of an engine makes of the same
body. -/
def SplitsAlike (engine : Engine) (layout : Sectioned) (handler : Handler) : Prop :=
  ∀ o : Occurrence, ∃ sections,
    Section.ofValue engine.delimiter (.text o.content) = .ok sections ∧
      handler.run o = layout.answer o.args sections

variable {highlighters : Text → Highlighter} {policy delimiter : Option Text} {settings : Settings}
  {engine : Engine}

theorem withCatalogue_eq_ok
    (made : withCatalogue highlighters policy delimiter settings = .ok engine) :
    engine.registry = register (highlighters settings.listingStyle)
        (delimiter.getD settings.sectionDelimiter)
        { defaultPriority := settings.defaultPriority } ∧
      engine.delimiter = Text.orElse delimiter settings.sectionDelimiter := by
  rw [withCatalogue, make] at made
  split at made
  · obtain rfl := Except.ok.inj made
    exact ⟨rfl, rfl⟩
  · exact nomatch made

/-- A blank line is what an empty delimiter cuts at, and no other does. -/
theorem not_infix_blankLine {delimiter : Text} (filled : delimiter ≠ []) :
    ¬ Section.separator delimiter <:+: "a\n\nb".toList := by
  obtain ⟨c, rest, rfl⟩ := List.exists_cons_of_ne_nil filled
  rintro ⟨front, back, same⟩
  have size := congrArg List.length same
  simp [Section.separator] at size
  -- at the second character the separator would end with the b, and behind that it does not fit
  rcases front with _ | ⟨first, _ | ⟨second, front⟩⟩
  · simp [Section.separator] at same
  · obtain rfl : rest = [] := List.length_eq_zero_iff.1 (by simp at size; omega)
    simp [Section.separator] at same
  · simp at size
    omega

theorem ofText_blankLine : Section.ofText [] "a\n\nb" = [['a'], ['b']] := by
  have joined : Text.trim (Text.join (Section.separator []) [['a'], ['b']]) = "a\n\nb".toList := by
    decide
  rw [← joined]
  exact Section.ofText_trim_join (by decide) (by decide) (by decide) (by decide)

theorem run_columns_blankLine {o : Occurrence} (args : o.args = [])
    (content : o.content = "a\n\nb".toList) :
    (columnsHandler []).run o =
      .ok (.text ((columnsFrame fun _ => 6).render [['a'], ['b']])) := by
  rw [run_columnsHandler, args, content, ofText_blankLine]
  exact Sectioned.answer_of_frame rfl

theorem not_splitsAlike_columns (filled : engine.delimiter ≠ []) :
    ¬ engine.SplitsAlike .columns (columnsHandler []) := by
  intro alike
  obtain ⟨sections, cut, run⟩ := alike ⟨.block, "columns", [], [], "a\n\nb", [], []⟩
  have whole : sections = ["a\n\nb".toList] := by
    rw [Section.ofValue_text] at cut
    have undivided := Section.ofText_of_not_isInfix (not_infix_blankLine filled)
    exact (Except.ok.inj cut).symm.trans (undivided.trans (by decide))
  have single : Sectioned.columns.answer [] sections =
      .ok (.text ((columnsFrame fun _ => 6).render ["a\n\nb"])) := by
    rw [whole]
    exact Sectioned.answer_of_frame rfl
  have answers := ((run_columns_blankLine rfl rfl).symm.trans run).trans single
  have different : (columnsFrame fun _ => 6).render [['a'], ['b']] ≠
      (columnsFrame fun _ => 6).render ["a\n\nb"] := by decide +kernel
  exact different (Value.text.inj (Except.ok.inj answers))

/-- The layouts of an engine cut bodies as the engine does, for all bodies, exactly if the delimiter
given to it is not empty, or the one it falls back on is empty too. -/
theorem splitsAlike_iff
    (made : withCatalogue highlighters policy delimiter settings = .ok engine) :
    (∀ layout : Sectioned, ∃ r, engine.registry.get? layout.name = some r ∧
        engine.SplitsAlike layout r.handler) ↔
      (delimiter = some [] → settings.sectionDelimiter = []) := by
  obtain ⟨registered, own⟩ := withCatalogue_eq_ok made
  have wf : engine.registry.WellFormed := registered ▸ wellFormed_register _ _ _
  have known (layout : Sectioned) : engine.registry.get? layout.name = some (layout.registration
      (delimiter.getD settings.sectionDelimiter) settings.defaultPriority) := by
    refine wf.get?_eq (r := layout.registration _ _) ?_
    rw [registered, register_empty]
    exact layout.mem_catalogue _ _ _
  constructor
  · rintro alike rfl
    by_contra filled
    obtain ⟨r, found, splits⟩ := alike .columns
    obtain rfl := Option.some.inj ((known .columns).symm.trans found)
    have nonempty : engine.delimiter ≠ [] := by rwa [own]
    exact not_splitsAlike_columns nonempty splits
  · intro same layout
    refine ⟨_, known layout, fun o => ⟨_, Section.ofValue_text _ _, ?_⟩⟩
    rw [own, Text.orElse_eq_getD same]
    exact layout.run_handler _ o

/-- An engine with a delimiter of its own. -/
theorem splitsAlike_of_stars :
    let engine : Engine := ⟨register Listing.monokai "***" {}, .warn, "***"⟩
    withCatalogue Highlighter.ofStyle none (some "***".toList) {} = .ok engine ∧
      ((∀ layout : Sectioned, ∃ r, engine.registry.get? layout.name = some r ∧
          engine.SplitsAlike layout r.handler) ↔
        (some "***".toList = some [] → ({} : Settings).sectionDelimiter = [])) := by
  intro engine
  have made : withCatalogue Highlighter.ofStyle none (some "***".toList) {} = .ok engine := rfl
  exact ⟨made, splitsAlike_iff made⟩

/-- An engine with an empty delimiter. Its own is the one of the settings and leaves a body whole
that its columns put into two cells. -/
theorem not_splitsAlike :
    let engine : Engine := ⟨register Listing.monokai [] {}, .warn, "---"⟩
    withCatalogue Highlighter.ofStyle none (some []) {} = .ok engine ∧
      Section.ofValue engine.delimiter (.text "a\n\nb") = .ok ["a\n\nb".toList] ∧
      ∃ r, engine.registry.get? "columns" = some r ∧
        (∀ o : Occurrence, o.args = [] → o.content = "a\n\nb".toList → r.handler.run o =
          .ok (.text ((columnsFrame fun _ => 6).render [['a'], ['b']]))) ∧
        ¬ engine.SplitsAlike .columns r.handler := by
  intro engine
  have filled : engine.delimiter ≠ [] := by decide
  have known : engine.registry.get? "columns" = some (Sectioned.columns.registration [] 100) := rfl
  refine ⟨rfl, ?_, _, known, fun o => run_columns_blankLine, not_splitsAlike_columns filled⟩
  rw [Section.ofValue_text, Section.ofText_of_not_isInfix (not_infix_blankLine filled)]
  decide

end Engine

end PageDirectives
