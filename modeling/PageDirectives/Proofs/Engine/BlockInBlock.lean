import PageDirectives.Proofs.Directive.Calm
import PageDirectives.Proofs.Engine.Blocks
import PageDirectives.Proofs.Text.Trimming
/-!
A block in the body of another. Where the inner one runs first, its handler gets it as it is
written, and the handler of the outer one gets a body in which the answer stands in its place.
-/
namespace PageDirectives

open Directive

/-- A text with a block in the body of another, by the lines around and inside of both. -/
structure BlockInBlock where
  before : List Text
  outerTail : Text
  front : List Text
  innerTail : Text
  body : List Text
  innerClosing : Text
  back : List Text
  outerClosing : Text
  after : List Text

namespace BlockInBlock

variable (b : BlockInBlock)

/-- The lines of the text, with the names of both blocks. -/
def lines (outer inner : Text) : List Text :=
  b.before ++ openingLine outer b.outerTail ::
    (b.front ++ openingLine inner b.innerTail ::
      (b.body ++ b.innerClosing :: (b.back ++ b.outerClosing :: b.after)))

/-- The blocks are written as blocks are, and no line but those that open and close them is
marked. -/
structure Plain (outer inner : Text) : Prop where
  whole : Text.AreLines (b.lines outer inner)
  outerEnds : nameEnds b.outerTail = true
  innerEnds : nameEnds b.innerTail = true
  outerCloses : closes b.outerClosing = true
  innerCloses : closes b.innerClosing = true
  unmarked : ∀ line ∈ b.before ++ (b.front ++ (b.body ++ (b.back ++ b.after))), isMarked line = false

/-- The inner block as it is found. -/
def innerOccurrence (page : Entries) (inner : Text) : Occurrence :=
  closedOccurrence page inner b.innerTail b.body b.innerClosing

/-- The body of the outer block once the inner one is answered. -/
def evaluated (answer : Text) : List Text := b.front ++ (Text.lines answer ++ b.back)

/-- The outer block as it is found once the inner one is answered. -/
def outerOccurrence (page : Entries) (outer answer : Text) : Occurrence :=
  closedOccurrence page outer b.outerTail (b.evaluated answer) b.outerClosing

variable {b} {outer inner : Registration} {answer : Text}

theorem lines_ne_nil (outer inner : Text) : b.lines outer inner ≠ [] := by simp [lines]

theorem Plain.single (h : b.Plain outer.name inner.name) (valid : Text.isName outer.name = true)
    (valid' : Text.isName inner.name = true) (free : isReserved inner.name = false)
    (ne : inner.name ≠ outer.name) :
    Engine.SingleBlock inner.name b.innerTail
      (b.before ++ openingLine outer.name b.outerTail :: b.front) b.body b.innerClosing
      (b.back ++ b.outerClosing :: b.after) (Text.ofLines (b.lines outer.name inner.name)) where
  written := by
    rw [Text.lines_ofLines h.whole (lines_ne_nil _ _), lines]
    simp
  ends := h.innerEnds
  inside line hl := closes_of_not_marked (h.unmarked line (by simp [hl]))
  closed := h.innerCloses
  around := by
    have unread (line : Text) (hl : line ∈ b.before ++ (b.front ++ (b.body ++ (b.back ++ b.after)))) :
        opening? inner.name line = none := opening?_of_not_marked (h.unmarked line hl)
    have opens := opening?_openingLine_of_ne valid' valid ne h.outerEnds
    have ends := opening?_of_closes valid' free h.outerCloses
    intro line hl
    simp only [List.mem_append, List.mem_cons] at hl unread
    rcases hl with (hl | rfl | hl) | hl | rfl | hl
    · exact unread line (.inl hl)
    · exact opens
    · exact unread line (.inr (.inl hl))
    · exact unread line (.inr (.inr (.inr (.inl hl))))
    · exact ends
    · exact unread line (.inr (.inr (.inr (.inr hl))))

/-- The content of the inner block begins no line with a mark behind its first. -/
theorem Plain.calm {outer inner : Text} (h : b.Plain outer inner) :
    Calm (Text.trim (Text.ofLines b.body)) := by
  have whole := h.whole
  simp only [lines, Text.areLines_append, Text.areLines_cons] at whole
  have quiet := quiet_ofLines whole.2.2.2.2.1 fun line hl => h.unmarked line (by simp [hl])
  exact (calm_of_quiet quiet).of_isInfix (Text.trim_isInfix _)

theorem Plain.evaluated (h : b.Plain outer.name inner.name) (quiet : Quiet answer) :
    ∀ line ∈ b.evaluated answer, isMarked line = false := by
  intro line hl
  rw [BlockInBlock.evaluated, List.mem_append, List.mem_append] at hl
  rcases hl with hl | hl | hl
  · exact h.unmarked line (by simp [hl])
  · exact quiet line hl
  · exact h.unmarked line (by simp [hl])

/-- Once the inner block is answered without marked lines, the outer one is the only block. -/
theorem Plain.only (h : b.Plain outer.name inner.name) (quiet : Quiet answer) :
    Engine.OnlyBlock outer.name b.outerTail b.before (b.evaluated answer) b.outerClosing b.after
      (Text.beforeLine (b.before ++ openingLine outer.name b.outerTail :: b.front) ++ answer ++
        Text.afterLine (b.back ++ b.outerClosing :: b.after)) where
  written := by
    have whole := h.whole
    simp only [lines, Text.areLines_append, Text.areLines_cons] at whole
    obtain ⟨hBefore, hOpening, hFront, -, -, -, hBack, hClosing, hAfter⟩ := whole
    rw [← Text.ofLines_lines_between, Text.lines_ofLines]
    · simp [BlockInBlock.evaluated]
    · simp only [Text.areLines_append, Text.areLines_cons]
      exact ⟨⟨hBefore, hOpening, hFront⟩, Text.areLines_lines answer, hBack, hClosing, hAfter⟩
    · simp
  ends := h.outerEnds
  inside line hl := closes_of_not_marked (h.evaluated quiet line hl)
  closed := h.outerCloses
  outside line hl := h.unmarked line (by
    rw [List.mem_append] at hl
    rcases hl with hl | hl <;> simp [hl])

variable {page : Entries} {first middle last : List Registration}

open Engine

theorem Plain.unread (h : b.Plain outer.name inner.name) (valid : Text.isName outer.name = true)
    (valid' : Text.isName inner.name = true) {name : Text} (valid'' : Text.isName name = true)
    (free : isReserved name = false) (ne : name ≠ outer.name) (ne' : name ≠ inner.name) :
    ∀ line ∈ b.lines outer.name inner.name, opening? name line = none := by
  intro line hl
  have unread (hl : line ∈ b.before ++ (b.front ++ (b.body ++ (b.back ++ b.after)))) :
      opening? name line = none := opening?_of_not_marked (h.unmarked line hl)
  simp only [lines, List.mem_append, List.mem_cons] at hl
  rcases hl with hl | rfl | hl | rfl | hl | rfl | hl | rfl | hl
  · exact unread (by simp [hl])
  · exact opening?_openingLine_of_ne valid'' valid ne h.outerEnds
  · exact unread (by simp [hl])
  · exact opening?_openingLine_of_ne valid'' valid' ne' h.innerEnds
  · exact unread (by simp [hl])
  · exact opening?_of_closes valid'' free h.innerCloses
  · exact unread (by simp [hl])
  · exact opening?_of_closes valid'' free h.outerCloses
  · exact unread (by simp [hl])

section Run

variable (h : b.Plain outer.name inner.name)
  (order : Order (first ++ inner :: (middle ++ outer :: last)))
  (innerBlock : inner.forms = .block)
  (answered : inner.handler.run (b.innerOccurrence page inner.name) = .ok (.text answer))

include h order innerBlock answered

/-- The inner block is exchanged first, and the rest of the run sees its answer. -/
theorem Plain.runAll_eq :
    runAll (first ++ inner :: (middle ++ outer :: last)) page
        (Text.ofLines (b.lines outer.name inner.name)) =
      oneCall inner (b.innerOccurrence page inner.name)
          (Text.beforeLine (b.before ++ openingLine outer.name b.outerTail :: b.front) ++ answer ++
            Text.afterLine (b.back ++ b.outerClosing :: b.after)) >>=
        runAll (middle ++ outer :: last) page := by
  have innerMem : inner ∈ first ++ inner :: (middle ++ outer :: last) := by simp
  have outerMem : outer ∈ first ++ inner :: (middle ++ outer :: last) := by simp
  have valid := order.valid outer outerMem
  have valid' := order.valid inner innerMem
  have ne : outer.name ≠ inner.name := order.name_ne (by simp)
  have regrouped : first ++ inner :: (middle ++ outer :: last) =
      (first ++ inner :: middle) ++ outer :: last := by simp
  -- what runs before the inner block has a name of its own, which opens none of the lines
  have skipped : ∀ s ∈ first, ∀ line ∈ Text.lines (Text.ofLines (b.lines outer.name inner.name)),
      opening? s.name line = none := by
    intro s hs
    have mem : s ∈ first ++ inner :: (middle ++ outer :: last) := List.mem_append_left _ hs
    rw [Text.lines_ofLines h.whole (lines_ne_nil _ _)]
    exact h.unread valid valid' (order.valid s mem) (order.free s mem)
      ((regrouped ▸ order).name_ne (by simp [hs])) (order.name_ne (by simp [hs]))
  have single := h.single valid valid' (order.free inner innerMem) ne.symm
  have exchanged := single.applyForms_eq (order.newline_notMem innerMem) innerBlock answered
  rw [runAll_append_of_unread (fun s hs => order.newline_notMem (List.mem_append_left _ hs)) skipped,
    runAll_cons, exchanged]
  rfl

variable (quiet : Quiet answer)

include quiet

theorem Plain.mem_calls (outerBlock : outer.forms = .block) :
    let calls := (runAll (first ++ inner :: (middle ++ outer :: last)) page
      (Text.ofLines (b.lines outer.name inner.name))).trace.calls
    ⟨inner.handler.origin, b.innerOccurrence page inner.name⟩ ∈ calls ∧
      ⟨outer.handler.origin, b.outerOccurrence page outer.name answer⟩ ∈ calls := by
  have rest : Order (middle ++ outer :: last) :=
    order.sublist ((List.sublist_cons_self inner _).trans (List.sublist_append_right first _))
  intro calls
  rw [show calls = _ from congrArg (·.trace.calls) (h.runAll_eq order innerBlock answered)]
  refine ⟨Traced.mem_calls_bind (List.mem_singleton_self _), ?_⟩
  exact Traced.mem_calls_bind_of_ok rfl
    ((h.only quiet).mem_calls_runAll (h.evaluated quiet) rest outerBlock page)

end Run

end BlockInBlock

/-- Where one name comes before another, the order is cut at both registrations. -/
theorem Registry.WellFormed.exists_cut {registry : Registry} (wf : registry.WellFormed)
    {r s : Registration} (hr : r ∈ registry.registrations) (hs : s ∈ registry.registrations)
    (before : Outline.RunsBefore registry.sorted r.name s.name) :
    ∃ first middle last, registry.sorted = first ++ r :: (middle ++ s :: last) := by
  obtain ⟨pair, sub, names⟩ := List.sublist_map_iff.1 before
  obtain ⟨r', rest, rfl, sameR, restNames⟩ := List.map_eq_cons_iff.1 names.symm
  obtain ⟨s', rfl, sameS⟩ := List.map_eq_singleton_iff.1 restNames
  obtain ⟨front, back, cut, inFront, inBack⟩ := List.cons_sublist_iff.1 sub
  obtain ⟨first, middle, rfl⟩ := List.append_of_mem inFront
  obtain ⟨middle', last, rfl⟩ := List.append_of_mem (List.singleton_sublist.1 inBack)
  have mem (x : Registration) (hx : x ∈ registry.sorted) : x ∈ registry.registrations :=
    Registry.mem_sorted.1 hx
  obtain rfl := wf.eq_of_name (mem r' (by rw [cut]; simp)) hr sameR
  obtain rfl := wf.eq_of_name (mem s' (by rw [cut]; simp)) hs sameS
  exact ⟨first, middle ++ middle', last, by rw [cut]; simp⟩

end PageDirectives
