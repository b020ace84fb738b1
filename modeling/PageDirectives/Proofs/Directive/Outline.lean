import PageDirectives.Proofs.Directive.Opening
import PageDirectives.Proofs.Directive.Registry
/-!
Outlines: documents as trees of lines, inline directives and blocks. Evaluating an outline from the
inside out puts in the place of each directive what it is answered with, and a block is met once its
body is evaluated. In a well nested outline the directives in the body of a block run before it.
-/
namespace PageDirectives

open Directive

/-- Lines, inline directives and blocks in sequence; the body of a block is an outline. -/
inductive Outline
  | empty
  | line (text : Text) (rest : Outline)
  | inline (name tail : Text) (rest : Outline)
  | block (name tail : Text) (body rest : Outline)

namespace Outline

/-- The lines of an outline. -/
def written : Outline → List Text
  | empty => []
  | line text rest => text :: rest.written
  | inline name tail rest => openingLine name tail :: rest.written
  | block name tail body rest =>
    openingLine name tail :: (body.written ++ closingLine :: rest.written)

def append : Outline → Outline → Outline
  | empty, back => back
  | line text rest, back => line text (rest.append back)
  | inline name tail rest, back => inline name tail (rest.append back)
  | block name tail body rest, back => block name tail body (rest.append back)

/-- The names of the directives in an outline, at any depth. -/
def names : Outline → List Text
  | empty => []
  | line _ rest => rest.names
  | inline name _ rest => name :: rest.names
  | block name _ body rest => name :: (body.names ++ rest.names)

/-- The lines of an outline outside of all directives. -/
def plainLines : Outline → List Text
  | empty => []
  | line text rest => text :: rest.plainLines
  | inline _ _ rest => rest.plainLines
  | block _ _ _ rest => rest.plainLines

section Evaluation

variable (answer : Occurrence → Text) (page : Entries)

/-- The lines of an outline with the answer in the place of every directive. A block is answered
once its body is evaluated. -/
def evaluated : Outline → List Text
  | empty => []
  | line text rest => text :: rest.evaluated
  | inline name tail rest =>
    Text.lines (answer (inlineOccurrence page name tail)) ++ rest.evaluated
  | block name tail body rest =>
    Text.lines (answer (blockOccurrence page name tail body.evaluated)) ++ rest.evaluated

/-- The directives that evaluation meets, those in the body of a block before the block. -/
def occurrences : Outline → List Occurrence
  | empty => []
  | line _ rest => rest.occurrences
  | inline name tail rest => inlineOccurrence page name tail :: rest.occurrences
  | block name tail body rest =>
    body.occurrences ++
      blockOccurrence page name tail (body.evaluated answer page) :: rest.occurrences

end Evaluation

/-- Whether one name comes strictly before another. -/
def RunsBefore (order : List Registration) (first second : Text) : Prop :=
  [first, second].Sublist (order.map (·.name))

/-- An outline of plain lines and registered directives, where all directives in the body of a block
run before the block. -/
def WellNested (order : List Registration) : Outline → Prop
  | empty => True
  | line text rest => ('\n' ∉ text ∧ isMarked text = false) ∧ rest.WellNested order
  | inline name tail rest =>
    (∃ r ∈ order, r.name = name ∧ r.forms.has .inline = true) ∧
      ('\n' ∉ tail ∧ isInlineTail tail = true) ∧ rest.WellNested order
  | block name tail body rest =>
    (∃ r ∈ order, r.name = name ∧ r.forms = .block) ∧
      ('\n' ∉ tail ∧ nameEnds tail = true) ∧
      (∀ first ∈ body.names, RunsBefore order first name) ∧
      body.WellNested order ∧ rest.WellNested order

instance (order : List Registration) (first second : Text) :
    Decidable (RunsBefore order first second) :=
  inferInstanceAs (Decidable ([first, second].Sublist (order.map (·.name))))

instance decidableWellNested (order : List Registration) :
    (d : Outline) → Decidable (d.WellNested order)
  | empty => inferInstanceAs (Decidable True)
  | line text rest =>
    have := decidableWellNested order rest
    inferInstanceAs (Decidable (('\n' ∉ text ∧ isMarked text = false) ∧ rest.WellNested order))
  | inline name tail rest =>
    have := decidableWellNested order rest
    inferInstanceAs (Decidable ((∃ r ∈ order, r.name = name ∧ r.forms.has .inline = true) ∧
      ('\n' ∉ tail ∧ isInlineTail tail = true) ∧ rest.WellNested order))
  | block name tail body rest =>
    have := decidableWellNested order body
    have := decidableWellNested order rest
    inferInstanceAs (Decidable ((∃ r ∈ order, r.name = name ∧ r.forms = .block) ∧
      ('\n' ∉ tail ∧ nameEnds tail = true) ∧
      (∀ first ∈ body.names, RunsBefore order first name) ∧
      body.WellNested order ∧ rest.WellNested order))

variable {answer : Occurrence → Text} {page : Entries}

section Append

variable (front back : Outline)

@[simp] theorem written_append : (front.append back).written = front.written ++ back.written := by
  induction front with
  | empty => rfl
  | line text rest ih => rw [append, written, written, ih, List.cons_append]
  | inline name tail rest ih => rw [append, written, written, ih, List.cons_append]
  | block name tail body rest _ ih =>
    rw [append, written, written, ih, List.cons_append, List.append_assoc, List.cons_append]

@[simp] theorem names_append : (front.append back).names = front.names ++ back.names := by
  induction front with
  | empty => rfl
  | line text rest ih => rw [append, names, names, ih]
  | inline name tail rest ih => rw [append, names, names, ih, List.cons_append]
  | block name tail body rest _ ih =>
    rw [append, names, names, ih, List.cons_append, List.append_assoc]

@[simp] theorem evaluated_append : (front.append back).evaluated answer page =
    front.evaluated answer page ++ back.evaluated answer page := by
  induction front with
  | empty => rfl
  | line text rest ih => rw [append, evaluated, evaluated, ih, List.cons_append]
  | inline name tail rest ih => rw [append, evaluated, evaluated, ih, List.append_assoc]
  | block name tail body rest _ ih => rw [append, evaluated, evaluated, ih, List.append_assoc]

@[simp] theorem occurrences_append : (front.append back).occurrences answer page =
    front.occurrences answer page ++ back.occurrences answer page := by
  induction front with
  | empty => rfl
  | line text rest ih => rw [append, occurrences, occurrences, ih]
  | inline name tail rest ih => rw [append, occurrences, occurrences, ih, List.cons_append]
  | block name tail body rest _ ih =>
    rw [append, occurrences, occurrences, ih, List.append_assoc, List.cons_append]

@[simp] theorem wellNested_append {order : List Registration} :
    (front.append back).WellNested order ↔ front.WellNested order ∧ back.WellNested order := by
  induction front with
  | empty => simp [append, WellNested]
  | line text rest ih => rw [append, WellNested, WellNested, ih]; tauto
  | inline name tail rest ih => rw [append, WellNested, WellNested, ih]; tauto
  | block name tail body rest _ ih => rw [append, WellNested, WellNested, ih]; tauto

end Append

theorem evaluation_congr {answer' : Occurrence → Text} {d : Outline}
    (same : ∀ o ∈ d.occurrences answer page, answer o = answer' o) :
    d.occurrences answer page = d.occurrences answer' page ∧
      d.evaluated answer page = d.evaluated answer' page := by
  induction d with
  | empty => exact ⟨rfl, rfl⟩
  | line text rest ih =>
    obtain ⟨occurrences, evaluated⟩ := ih same
    exact ⟨occurrences, congrArg (text :: ·) evaluated⟩
  | inline name tail rest ih =>
    rw [occurrences, List.forall_mem_cons] at same
    obtain ⟨others, lines⟩ := ih same.2
    rw [occurrences, occurrences, evaluated, evaluated, others, lines, same.1]
    exact ⟨rfl, rfl⟩
  | block name tail body rest ihBody ihRest =>
    rw [occurrences, List.forall_mem_append, List.forall_mem_cons] at same
    obtain ⟨inner, body⟩ := ihBody same.1
    obtain ⟨others, lines⟩ := ihRest same.2.2
    rw [occurrences, occurrences, evaluated, evaluated, others, lines, same.2.1, inner, body]
    exact ⟨rfl, rfl⟩

theorem plainLines_sublist_evaluated (d : Outline) :
    d.plainLines.Sublist (d.evaluated answer page) := by
  induction d with
  | empty => exact List.Sublist.refl _
  | line text rest ih => exact ih.cons_cons text
  | inline name tail rest ih => exact ih.trans (List.sublist_append_right _ _)
  | block name tail body rest _ ih => exact ih.trans (List.sublist_append_right _ _)

theorem name_mem_of_mem_occurrences {d : Outline} {o : Occurrence}
    (h : o ∈ d.occurrences answer page) : o.name ∈ d.names := by
  induction d with
  | empty => exact absurd h List.not_mem_nil
  | line text rest ih => exact ih h
  | inline name tail rest ih =>
    rcases List.mem_cons.1 h with rfl | h
    · exact List.mem_cons_self
    · exact List.mem_cons_of_mem name (ih h)
  | block name tail body rest ihBody ihRest =>
    rw [names, List.mem_cons, List.mem_append]
    rcases List.mem_append.1 h with h | h
    · exact .inr (.inl (ihBody h))
    · rcases List.mem_cons.1 h with rfl | h
      · exact .inl rfl
      · exact .inr (.inr (ihRest h))

theorem occurrences_eq_nil {d : Outline} (none : d.names = []) :
    d.occurrences answer page = [] := by
  rw [List.eq_nil_iff_forall_not_mem]
  intro o h
  have := name_mem_of_mem_occurrences h
  simp [none] at this

theorem evaluated_eq_written {d : Outline} (none : d.names = []) :
    d.evaluated answer page = d.written := by
  induction d with
  | empty => rfl
  | line text rest ih => rw [evaluated, written, ih none]
  | inline name tail rest => simp [names] at none
  | block name tail body rest => simp [names] at none

section Order

variable {order : List Registration}

theorem WellNested.mono {order' : List Registration} (sub : order.Sublist order') {d : Outline}
    (nested : d.WellNested order) : d.WellNested order' := by
  induction d with
  | empty => trivial
  | line text rest ih => exact ⟨nested.1, ih nested.2⟩
  | inline name tail rest ih =>
    obtain ⟨⟨s, hs, registered⟩, tails, restNested⟩ := nested
    exact ⟨⟨s, sub.subset hs, registered⟩, tails, ih restNested⟩
  | block name tail body rest ihBody ihRest =>
    obtain ⟨⟨s, hs, registered⟩, tails, before, bodyNested, restNested⟩ := nested
    refine ⟨⟨s, sub.subset hs, registered⟩, tails, ?_, ihBody bodyNested, ihRest restNested⟩
    intro first hfirst
    exact (before first hfirst).trans (sub.map (·.name))

theorem WellNested.names_eq_nil {d : Outline} (nested : d.WellNested []) : d.names = [] := by
  induction d with
  | empty => rfl
  | line text rest ih => exact ih nested.2
  | inline name tail rest =>
    obtain ⟨⟨s, hs, -⟩, -⟩ := nested
    exact absurd hs List.not_mem_nil
  | block name tail body rest =>
    obtain ⟨⟨s, hs, -⟩, -⟩ := nested
    exact absurd hs List.not_mem_nil

theorem areLines_written (valid : ∀ s ∈ order, Text.isName s.name = true) {d : Outline}
    (nested : d.WellNested order) : Text.AreLines d.written := by
  induction d with
  | empty => simp [written]
  | line text rest ih => exact Text.areLines_cons.2 ⟨nested.1.1, ih nested.2⟩
  | inline name tail rest ih =>
    obtain ⟨⟨s, hs, rfl, -⟩, ⟨free, -⟩, restNested⟩ := nested
    exact Text.areLines_cons.2 ⟨newline_notMem_openingLine (valid s hs) free, ih restNested⟩
  | block name tail body rest ihBody ihRest =>
    obtain ⟨⟨s, hs, rfl, -⟩, ⟨free, -⟩, -, bodyNested, restNested⟩ := nested
    rw [written, Text.areLines_cons, Text.areLines_append, Text.areLines_cons]
    exact ⟨newline_notMem_openingLine (valid s hs) free, ihBody bodyNested,
      newline_notMem_closingLine, ihRest restNested⟩

theorem isMarked_of_mem_written {d : Outline} (nested : d.WellNested order) (none : d.names = []) :
    ∀ line ∈ d.written, isMarked line = false := by
  induction d with
  | empty => simp [written]
  | line text rest ih => exact List.forall_mem_cons.2 ⟨nested.1.2, ih nested.2 none⟩
  | inline name tail rest => simp [names] at none
  | block name tail body rest => simp [names] at none

theorem mem_order_of_mem_names {d : Outline} (nested : d.WellNested order) {name : Text}
    (h : name ∈ d.names) : name ∈ order.map (·.name) := by
  induction d with
  | empty => exact absurd h List.not_mem_nil
  | line text rest ih => exact ih nested.2 h
  | inline other tail rest ih =>
    obtain ⟨⟨s, hs, same, -⟩, -, restNested⟩ := nested
    rcases List.mem_cons.1 h with rfl | h
    · exact List.mem_map.2 ⟨s, hs, same⟩
    · exact ih restNested h
  | block other tail body rest ihBody ihRest =>
    obtain ⟨⟨s, hs, same, -⟩, -, -, bodyNested, restNested⟩ := nested
    rw [names, List.mem_cons, List.mem_append] at h
    rcases h with rfl | h | h
    · exact List.mem_map.2 ⟨s, hs, same⟩
    · exact ihBody bodyNested h
    · exact ihRest restNested h

theorem areLines_evaluated {d : Outline} (nested : d.WellNested order) :
    Text.AreLines (d.evaluated answer page) := by
  induction d with
  | empty => exact Text.areLines_nil
  | line text rest ih => exact Text.areLines_cons.2 ⟨nested.1.1, ih nested.2⟩
  | inline name tail rest ih =>
    exact Text.areLines_append.2 ⟨Text.areLines_lines _, ih nested.2.2⟩
  | block name tail body rest _ ih =>
    exact Text.areLines_append.2 ⟨Text.areLines_lines _, ih nested.2.2.2.2⟩

theorem isMarked_of_mem_evaluated {d : Outline} (nested : d.WellNested order)
    (quiet : ∀ o ∈ d.occurrences answer page, Quiet (answer o)) :
    ∀ line ∈ d.evaluated answer page, isMarked line = false := by
  induction d with
  | empty => simp [evaluated]
  | line text rest ih => exact List.forall_mem_cons.2 ⟨nested.1.2, ih nested.2 quiet⟩
  | inline name tail rest ih =>
    rw [occurrences, List.forall_mem_cons] at quiet
    exact List.forall_mem_append.2 ⟨quiet.1, ih nested.2.2 quiet.2⟩
  | block name tail body rest _ ih =>
    rw [occurrences, List.forall_mem_append, List.forall_mem_cons] at quiet
    exact List.forall_mem_append.2 ⟨quiet.2.1, ih nested.2.2.2.2 quiet.2.2⟩

end Order

end Outline
end PageDirectives
