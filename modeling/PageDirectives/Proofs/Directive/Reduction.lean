import PageDirectives.Proofs.Directive.Outline
/-!
Reducing an outline puts the answers in the place of the directives of one name, wherever they
stand. A pass of the registration that runs next does this to the lines, and what is left is an
outline that is well nested for the others, has their occurrences and evaluates to the same lines.
-/
namespace PageDirectives

open Directive

namespace Outline

def withLines (lines : List Text) (d : Outline) : Outline := lines.foldr line d

/-- An outline with the answer in the place of every directive of one name. -/
def reduce (answer : Occurrence → Text) (page : Entries) (name : Text) : Outline → Outline
  | empty => empty
  | line text rest => line text (rest.reduce answer page name)
  | inline other tail rest =>
    if other = name then
      withLines (Text.lines (answer (inlineOccurrence page other tail)))
        (rest.reduce answer page name)
    else inline other tail (rest.reduce answer page name)
  | block other tail body rest =>
    if other = name then
      withLines (Text.lines (answer (blockOccurrence page other tail (body.evaluated answer page))))
        (rest.reduce answer page name)
    else block other tail (body.reduce answer page name) (rest.reduce answer page name)

section WithLines

variable (lines : List Text) (d : Outline)

@[simp] theorem written_withLines : (withLines lines d).written = lines ++ d.written := by
  induction lines with
  | nil => rfl
  | cons text lines ih => exact congrArg (text :: ·) ih

@[simp] theorem names_withLines : (withLines lines d).names = d.names := by
  induction lines with
  | nil => rfl
  | cons text lines ih => exact ih

@[simp] theorem evaluated_withLines (answer : Occurrence → Text) (page : Entries) :
    (withLines lines d).evaluated answer page = lines ++ d.evaluated answer page := by
  induction lines with
  | nil => rfl
  | cons text lines ih => exact congrArg (text :: ·) ih

@[simp] theorem occurrences_withLines (answer : Occurrence → Text) (page : Entries) :
    (withLines lines d).occurrences answer page = d.occurrences answer page := by
  induction lines with
  | nil => rfl
  | cons text lines ih => exact ih

theorem wellNested_withLines {order : List Registration} {lines : List Text} {d : Outline}
    (ls : Text.AreLines lines) (quiet : ∀ line ∈ lines, isMarked line = false)
    (nested : d.WellNested order) : (withLines lines d).WellNested order := by
  induction lines with
  | nil => exact nested
  | cons text lines ih =>
    have behind := ih (Text.areLines_cons.1 ls).2 fun l hl => quiet l (List.mem_cons_of_mem text hl)
    exact ⟨⟨(Text.areLines_cons.1 ls).1, quiet text List.mem_cons_self⟩, behind⟩

end WithLines

variable {answer : Occurrence → Text} {page : Entries}

/-- Reducing an outline does not change what it evaluates to. -/
@[simp] theorem evaluated_reduce (name : Text) (d : Outline) :
    (d.reduce answer page name).evaluated answer page = d.evaluated answer page := by
  induction d with
  | empty => rfl
  | line text rest ih => rw [reduce, evaluated, evaluated, ih]
  | inline other tail rest ih =>
    rw [reduce]
    split
    · rw [evaluated_withLines, ih, evaluated]
    · rw [evaluated, evaluated, ih]
  | block other tail body rest ihBody ihRest =>
    rw [reduce]
    split
    · rw [evaluated_withLines, ihRest, evaluated]
    · rw [evaluated, evaluated, ihBody, ihRest]

theorem mem_names_reduce {name first : Text} {d : Outline}
    (h : first ∈ (d.reduce answer page name).names) : first ∈ d.names ∧ first ≠ name := by
  induction d with
  | empty => exact absurd h List.not_mem_nil
  | line text rest ih => exact ih h
  | inline other tail rest ih =>
    rw [reduce] at h
    split at h
    · rw [names_withLines] at h
      exact ⟨List.mem_cons_of_mem other (ih h).1, (ih h).2⟩
    · next ne =>
      rcases List.mem_cons.1 h with rfl | h
      · exact ⟨List.mem_cons_self, ne⟩
      · exact ⟨List.mem_cons_of_mem other (ih h).1, (ih h).2⟩
  | block other tail body rest ihBody ihRest =>
    rw [reduce] at h
    rw [names, List.mem_cons, List.mem_append]
    split at h
    · rw [names_withLines] at h
      exact ⟨.inr (.inr (ihRest h).1), (ihRest h).2⟩
    · next ne =>
      rw [names, List.mem_cons, List.mem_append] at h
      rcases h with rfl | h | h
      · exact ⟨.inl rfl, ne⟩
      · exact ⟨.inr (.inl (ihBody h).1), (ihBody h).2⟩
      · exact ⟨.inr (.inr (ihRest h).1), (ihRest h).2⟩

section Order

variable {r : Registration} {order : List Registration}

theorem RunsBefore.of_cons {first second : Text} (h : RunsBefore (r :: order) first second)
    (ne : first ≠ r.name) : RunsBefore order first second := by
  rw [RunsBefore, List.map_cons] at h
  cases h with
  | cons _ h => exact h
  | cons_cons _ _ => exact absurd rfl ne

theorem not_runsBefore_first (distinct : ((r :: order).map (·.name)).Nodup) (first : Text) :
    ¬ RunsBefore (r :: order) first r.name := by
  intro h
  rw [List.map_cons, List.nodup_cons] at distinct
  rw [RunsBefore, List.map_cons] at h
  cases h with
  | cons _ h => exact distinct.1 (h.subset (by simp))
  | cons_cons _ h => exact distinct.1 (h.subset List.mem_cons_self)

/-- The body of a block that runs first has no directives. -/
theorem names_eq_nil_of_first (distinct : ((r :: order).map (·.name)).Nodup) {body : Outline}
    (h : ∀ first ∈ body.names, RunsBefore (r :: order) first r.name) : body.names = [] := by
  rw [List.eq_nil_iff_forall_not_mem]
  intro first hfirst
  exact not_runsBefore_first distinct first (h first hfirst)

/-- Reducing by the name that runs first takes its own occurrences away and no others. -/
theorem occurrences_reduce (distinct : ((r :: order).map (·.name)).Nodup) {d : Outline}
    (nested : d.WellNested (r :: order)) :
    (d.reduce answer page r.name).occurrences answer page =
      (d.occurrences answer page).filter (·.name ≠ r.name) := by
  induction d with
  | empty => rfl
  | line text rest ih => exact ih nested.2
  | inline other tail rest ih =>
    rw [reduce, occurrences, List.filter_cons, ← ih nested.2.2]
    by_cases h : other = r.name <;> simp [h, occurrences, inlineOccurrence]
  | block other tail body rest ihBody ihRest =>
    obtain ⟨-, -, before, bodyNested, restNested⟩ := nested
    rw [reduce, occurrences, List.filter_append, List.filter_cons, ← ihRest restNested]
    by_cases h : other = r.name
    · subst h
      have none := names_eq_nil_of_first distinct before
      simp [occurrences_eq_nil none, blockOccurrence]
    · simp [h, occurrences, blockOccurrence, ihBody bodyNested]

/-- Reducing by the name that runs first leaves an outline that is well nested for the others. -/
theorem WellNested.reduce {d : Outline} (nested : d.WellNested (r :: order))
    (quiet : ∀ o ∈ d.occurrences answer page, Quiet (answer o)) :
    (d.reduce answer page r.name).WellNested order := by
  induction d with
  | empty => trivial
  | line text rest ih => exact ⟨nested.1, ih nested.2 quiet⟩
  | inline other tail rest ih =>
    obtain ⟨⟨s, hs, same, has⟩, tails, restNested⟩ := nested
    rw [occurrences, List.forall_mem_cons] at quiet
    have rest := ih restNested quiet.2
    rw [Outline.reduce]
    split
    · exact wellNested_withLines (Text.areLines_lines _) quiet.1 rest
    · next ne =>
      rcases List.mem_cons.1 hs with rfl | hs
      · exact absurd same.symm ne
      · exact ⟨⟨s, hs, same, has⟩, tails, rest⟩
  | block other tail body rest ihBody ihRest =>
    obtain ⟨⟨s, hs, same, form⟩, tails, before, bodyNested, restNested⟩ := nested
    rw [occurrences, List.forall_mem_append, List.forall_mem_cons] at quiet
    have rest := ihRest restNested quiet.2.2
    rw [Outline.reduce]
    split
    · exact wellNested_withLines (Text.areLines_lines _) quiet.2.1 rest
    · next ne =>
      rcases List.mem_cons.1 hs with rfl | hs
      · exact absurd same.symm ne
      · refine ⟨⟨s, hs, same, form⟩, tails, ?_, ihBody bodyNested quiet.1, rest⟩
        intro first hfirst
        obtain ⟨mem, other⟩ := mem_names_reduce hfirst
        exact (before first mem).of_cons other

/-- An inline directive is registered as such, and a block as nothing else. -/
theorem form_of_mem_occurrences (distinct : ((r :: order).map (·.name)).Nodup) {d : Outline}
    (nested : d.WellNested (r :: order)) {o : Occurrence} (h : o ∈ d.occurrences answer page)
    (name : o.name = r.name) :
    o.form = .inline ∧ r.forms.has .inline = true ∨ o.form = .block ∧ r.forms = .block := by
  induction d with
  | empty => exact absurd h List.not_mem_nil
  | line text rest ih => exact ih nested.2 h
  | inline other tail rest ih =>
    obtain ⟨⟨s, hs, same, has⟩, -, restNested⟩ := nested
    rcases List.mem_cons.1 h with rfl | h
    · obtain rfl : s = r :=
        List.inj_on_of_nodup_map distinct hs List.mem_cons_self (same.trans name)
      exact .inl ⟨rfl, has⟩
    · exact ih restNested h
  | block other tail body rest ihBody ihRest =>
    obtain ⟨⟨s, hs, same, form⟩, -, -, bodyNested, restNested⟩ := nested
    rcases List.mem_append.1 h with h | h
    · exact ihBody bodyNested h
    · rcases List.mem_cons.1 h with rfl | h
      · obtain rfl : s = r :=
          List.inj_on_of_nodup_map distinct hs List.mem_cons_self (same.trans name)
        exact .inr ⟨rfl, form⟩
      · exact ihRest restNested h

/-- A pass of the registration that runs next finds the occurrences of its name, and puts their
answers in their place. -/
theorem pass_written (valid : ∀ s ∈ r :: order, Text.isName s.name = true)
    (free : isReserved r.name = false) (distinct : ((r :: order).map (·.name)).Nodup)
    {image : Occurrence → Text} (agree : ∀ o, o.name = r.name → image o = answer o) {form : Form}
    {d : Outline} (nested : d.WellNested (r :: order))
    (uniform : ∀ o ∈ d.occurrences answer page, o.name = r.name → o.form = form)
    (later : List Text) :
    (reader r.name page form).found (d.written ++ later) =
        (d.occurrences answer page).filter (·.name = r.name) ++
          (reader r.name page form).found later ∧
      (reader r.name page form).exchange image (d.written ++ later) =
        (d.reduce answer page r.name).written ++
          (reader r.name page form).exchange image later := by
  have nameValid := valid r List.mem_cons_self
  induction d generalizing later with
  | empty => exact ⟨rfl, rfl⟩
  | line text rest ih =>
    obtain ⟨⟨-, unmarked⟩, restNested⟩ := nested
    have none := (reader_heeds r.name page form).first text (rest.written ++ later) unmarked
    obtain ⟨found, exchanged⟩ := ih restNested uniform later
    simp only [written, List.cons_append]
    rw [LineReader.found_of_none none, LineReader.exchange_of_none none, found, exchanged]
    exact ⟨rfl, rfl⟩
  | inline other tail rest ih =>
    obtain ⟨⟨s, hs, rfl, -⟩, ⟨-, blank⟩, restNested⟩ := nested
    rw [occurrences, List.forall_mem_cons] at uniform
    obtain ⟨found, exchanged⟩ := ih restNested uniform.2 later
    simp only [written, occurrences, reduce, List.cons_append, List.filter_cons]
    by_cases h : s.name = r.name
    · obtain rfl : Form.inline = form := uniform.1 h
      obtain ⟨foundOwn, exchangedOwn⟩ := pass_inline image (rest.written ++ later) blank
      rw [h, foundOwn, exchangedOwn, found, exchanged]
      simp [inlineOccurrence, agree]
    · obtain ⟨foundPast, exchangedPast⟩ := pass_openingLine_of_ne image (rest.written ++ later)
        nameValid (valid s hs) (Ne.symm h) (nameEnds_of_isInlineTail blank)
      rw [foundPast, exchangedPast, found, exchanged]
      simp [inlineOccurrence, h, written]
  | block other tail body rest ihBody ihRest =>
    obtain ⟨⟨s, hs, rfl, -⟩, ⟨-, ends⟩, before, bodyNested, restNested⟩ := nested
    rw [occurrences, List.forall_mem_append, List.forall_mem_cons] at uniform
    obtain ⟨found, exchanged⟩ := ihRest restNested uniform.2.2 later
    simp only [written, occurrences, reduce, List.cons_append, List.append_assoc,
      List.filter_append, List.filter_cons]
    by_cases h : s.name = r.name
    · obtain rfl : Form.block = form := uniform.2.1 h
      rw [h] at before ⊢
      -- nothing runs before this name, so no line of the body can close the block
      have bare := names_eq_nil_of_first distinct before
      have open' : ∀ line ∈ body.written, closes line = false := fun line hl =>
        closes_of_not_marked (isMarked_of_mem_written bodyNested bare line hl)
      obtain ⟨foundOwn, exchangedOwn⟩ := pass_block image (rest.written ++ later) ends open'
      rw [foundOwn, exchangedOwn, found, exchanged]
      simp [blockOccurrence, agree, occurrences_eq_nil bare, evaluated_eq_written bare]
    · obtain ⟨foundPast, exchangedPast⟩ := pass_openingLine_of_ne image
        (body.written ++ closingLine :: (rest.written ++ later)) nameValid (valid s hs) (Ne.symm h)
        ends
      obtain ⟨foundBody, exchangedBody⟩ :=
        ihBody bodyNested uniform.1 (closingLine :: (rest.written ++ later))
      obtain ⟨foundEnd, exchangedEnd⟩ := pass_closingLine image (rest.written ++ later) nameValid free
      rw [foundPast, exchangedPast, foundBody, exchangedBody, foundEnd, exchangedEnd, found,
        exchanged]
      simp [blockOccurrence, h, written]

end Order

end Outline
end PageDirectives
