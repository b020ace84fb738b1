import PageDirectives.Header
import PageDirectives.Proofs.Text.Lines
/-!
Documents taken apart at their fences and put together again. What lies between the fences and what
lies behind them is kept character for character, but the fences are not: joining writes them bare,
each with a line feed behind it, and writes none around a header without lines. So a document comes
back as it was if and only if its own fences are written that way.
-/
namespace PageDirectives.Headed

open Text

/-- The lines of a text that has a header: a fence, lines that are none, a fence, and the rest. -/
structure Fenced (text first : Text) (inner : List Text) (last : Text) (rest : List Text) :
    Prop where
  reads : lines text = first :: (inner ++ last :: rest)
  opens : isFence first = true
  bare : ∀ line ∈ inner, isFence line = false
  closes : isFence last = true

theorem closedLines_eq (lines : List Text) : closedLines lines = beforeLine lines := rfl

theorem cutAtFence?_eq_some_iff {lines inner rest : List Text} :
    cutAtFence? lines = some (inner, rest) ↔
      ∃ last, lines = inner ++ last :: rest ∧ (∀ line ∈ inner, isFence line = false) ∧
        isFence last = true := by
  induction lines generalizing inner with
  | nil => simp [cutAtFence?]
  | cons line lines ih =>
    rw [cutAtFence?]
    cases fence : isFence line with
    | true =>
      simp only [if_true, Option.some.injEq, Prod.mk.injEq]
      constructor
      · rintro ⟨rfl, rfl⟩
        exact ⟨line, rfl, by simp, fence⟩
      · rintro ⟨last, same, bare, -⟩
        cases inner with
        | nil => exact ⟨rfl, (List.cons.inj same).2⟩
        | cons first inner =>
          rw [(List.cons.inj same).1, bare first List.mem_cons_self] at fence
          simp at fence
    | false =>
      simp only [Bool.false_eq_true, if_false, Option.map_eq_some_iff, Prod.exists, Prod.mk.injEq]
      constructor
      · rintro ⟨before, behind, cut, rfl, rfl⟩
        obtain ⟨last, rfl, bare, closes⟩ := ih.1 cut
        exact ⟨last, rfl, List.forall_mem_cons.2 ⟨fence, bare⟩, closes⟩
      · rintro ⟨last, same, bare, closes⟩
        cases inner with
        | nil =>
          rw [(List.cons.inj same).1, closes] at fence
          simp at fence
        | cons first inner =>
          obtain ⟨rfl, rfl⟩ := List.cons.inj same
          exact ⟨inner, rest, ih.2 ⟨last, rfl, (List.forall_mem_cons.1 bare).2, closes⟩, rfl, rfl⟩

/-- A text has a header if and only if its first line is a fence and a later one is. -/
theorem ofText?_eq_some_iff {text : Text} {h : Headed} :
    ofText? text = some h ↔ ∃ first inner last rest, Fenced text first inner last rest ∧
      h = ⟨beforeLine inner, ofLines rest⟩ := by
  obtain ⟨first, later, -, -, lines⟩ := exists_lines text
  rw [ofText?, lines]
  constructor
  · intro read
    cases opens : isFence first with
    | false => simp [opens] at read
    | true =>
      simp only [opens, if_true, Option.map_eq_some_iff, Prod.exists] at read
      obtain ⟨inner, rest, cut, rfl⟩ := read
      obtain ⟨last, rfl, bare, closes⟩ := cutAtFence?_eq_some_iff.1 cut
      exact ⟨first, inner, last, rest, ⟨lines, opens, bare, closes⟩, rfl⟩
  · rintro ⟨first', inner, last, rest, fenced, rfl⟩
    obtain ⟨rfl, rfl⟩ := List.cons.inj (lines.symm.trans fenced.reads)
    have cut : cutAtFence? (inner ++ last :: rest) = some (inner, rest) :=
      cutAtFence?_eq_some_iff.2 ⟨last, rfl, fenced.bare, fenced.closes⟩
    simp only [fenced.opens, if_true, cut, Option.map_some, closedLines_eq]

theorem beforeLine_getLast? {lines : List Text} (ne : lines ≠ []) :
    (beforeLine lines).getLast? = some '\n' := by
  rw [beforeLine_eq ne, List.getLast?_concat]

theorem beforeLine_ne_nil {lines : List Text} (ne : lines ≠ []) : beforeLine lines ≠ [] := by
  rw [beforeLine_eq ne]
  simp

/-- Joining writes bare fences around the lines of a header. -/
theorem join_beforeLine {inner : List Text} (ne : inner ≠ []) (body : Text) :
    join (beforeLine inner) body = beforeLine (fenceMark :: (inner ++ [fenceMark])) ++ body := by
  rw [join, if_neg (beforeLine_ne_nil ne), if_pos (beforeLine_getLast? ne), beforeLine_cons,
    beforeLine_append, beforeLine_cons]
  simp [beforeLine]

theorem lines_join_beforeLine {inner : List Text} (ls : AreLines inner) (ne : inner ≠ [])
    (body : Text) :
    lines (join (beforeLine inner) body) = fenceMark :: (inner ++ fenceMark :: lines body) := by
  have split : fenceMark :: (inner ++ fenceMark :: lines body) =
      (fenceMark :: (inner ++ [fenceMark])) ++ lines body := by simp
  have all : AreLines (fenceMark :: (inner ++ fenceMark :: lines body)) := by
    have markFree : '\n' ∉ fenceMark := by decide
    simp only [areLines_cons, areLines_append]
    exact ⟨markFree, ls, markFree, areLines_lines body⟩
  have joined : join (beforeLine inner) body =
      ofLines (fenceMark :: (inner ++ fenceMark :: lines body)) := by
    rw [split, ofLines_append_right _ (lines_ne_nil body), ofLines_lines, join_beforeLine ne]
  rw [joined, lines_ofLines all (List.cons_ne_nil _ _)]

namespace Fenced

variable {text first last : Text} {inner rest : List Text}

theorem areLines (h : Fenced text first inner last rest) :
    AreLines (first :: (inner ++ last :: rest)) :=
  h.reads ▸ areLines_lines text

theorem eq_ofLines (h : Fenced text first inner last rest) :
    text = ofLines (first :: (inner ++ last :: rest)) := by
  rw [← h.reads, ofLines_lines]

/-- The second fence is the first one behind the first line, so a text has one header at most. -/
theorem unique (h : Fenced text first inner last rest) {first' last' : Text}
    {inner' rest' : List Text} (h' : Fenced text first' inner' last' rest') :
    first' = first ∧ inner' = inner ∧ last' = last ∧ rest' = rest := by
  obtain ⟨sameFirst, sameLater⟩ := List.cons.inj (h'.reads.symm.trans h.reads)
  have cut : cutAtFence? (inner ++ last :: rest) = some (inner, rest) :=
    cutAtFence?_eq_some_iff.2 ⟨last, rfl, h.bare, h.closes⟩
  have cut' : cutAtFence? (inner ++ last :: rest) = some (inner', rest') :=
    cutAtFence?_eq_some_iff.2 ⟨last', sameLater.symm, h'.bare, h'.closes⟩
  obtain ⟨rfl, rfl⟩ := Prod.mk.inj (Option.some.inj (cut'.symm.trans cut))
  exact ⟨sameFirst, rfl, (List.cons.inj (List.append_cancel_left sameLater)).1, rfl⟩

/-- Without lines between the fences the fences are lost. -/
theorem join_ne (h : Fenced text first [] last rest) : ofLines rest ≠ text := by
  intro same
  have longer : (ofLines rest).length < text.length := by
    rw [h.eq_ofLines, List.nil_append, ofLines_cons, afterLine_cons, ofLines_cons]
    cases rest with
    | nil => simp only [ofLines_nil, List.length_nil, List.length_append, List.length_cons]; omega
    | cons next rest =>
      simp only [afterLine_cons, List.length_append, List.length_cons]
      omega
  rw [same] at longer
  exact Nat.lt_irrefl _ longer

theorem lines_ofLines_rest (h : Fenced text first inner last rest) :
    lines (ofLines rest) = rest ↔ rest ≠ [] := by
  refine ⟨fun same none => lines_ne_nil _ (same.trans none), lines_ofLines fun line hline => ?_⟩
  exact h.areLines line (by simp [hline])

/-- The lines that joining writes: a body without a line of its own begins behind a line feed. -/
theorem lines_join (h : Fenced text first inner last rest) (ne : inner ≠ []) :
    lines (join (beforeLine inner) (ofLines rest)) =
      fenceMark :: (inner ++ fenceMark :: lines (ofLines rest)) := by
  have within := h.areLines
  rw [areLines_cons, areLines_append] at within
  exact lines_join_beforeLine within.2.1 ne _

theorem join_eq_iff (h : Fenced text first inner last rest) (ne : inner ≠ []) :
    join (beforeLine inner) (ofLines rest) = text ↔
      first = fenceMark ∧ last = fenceMark ∧ rest ≠ [] := by
  have byLines : join (beforeLine inner) (ofLines rest) = text ↔
      lines (join (beforeLine inner) (ofLines rest)) = lines text :=
    ⟨congrArg lines, fun same => by rw [← ofLines_lines text, ← same, ofLines_lines]⟩
  rw [byLines, h.lines_join ne, h.reads, List.cons.injEq, List.append_cancel_left_eq,
    List.cons.injEq, h.lines_ofLines_rest, eq_comm, @eq_comm _ last]

end Fenced

theorem ofText_eq_ok {text : Text} {source : Source} (read : Source.ofText text = .ok source) :
    (ofText? text = none ∧ source.raw = [] ∧ source.body = text) ∨
      ofText? text = some ⟨source.raw, source.body⟩ := by
  rw [Source.ofText] at read
  cases headed : ofText? text with
  | none =>
    rw [headed] at read
    rw [← Except.ok.inj read]
    exact .inl ⟨rfl, rfl, rfl⟩
  | some h =>
    rw [headed] at read
    dsimp only at read
    cases fields : Source.fieldsOf h.raw with
    | error e => simp [fields, Except.map] at read
    | ok entries =>
      rw [fields] at read
      rw [← Except.ok.inj read]
      exact .inr rfl

/-- The lines between the fences of a document and those behind them are kept. Joined again they are
the document if and only if it has no header, or there are lines between its fences, both fences are
bare, and a line feed follows the second one. In every other case the fences are written bare, and
those around a header without lines are not written. -/
theorem join_ofText_iff {text : Text} {source : Source} (read : Source.ofText text = .ok source) :
    (join source.raw source.body = text ↔
      ∀ first inner last rest, Fenced text first inner last rest →
        inner ≠ [] ∧ first = fenceMark ∧ last = fenceMark ∧ rest ≠ []) ∧
    ∀ first inner last rest, Fenced text first inner last rest →
      source.raw = beforeLine inner ∧ source.body = ofLines rest ∧
        lines (join source.raw source.body) =
          if inner = [] then lines source.body
          else fenceMark :: (inner ++ fenceMark :: lines source.body) := by
  have parts : ∀ {first inner last rest}, Fenced text first inner last rest →
      source.raw = beforeLine inner ∧ source.body = ofLines rest := by
    intro first inner last rest fenced
    have headed := ofText?_eq_some_iff.2 ⟨first, inner, last, rest, fenced, rfl⟩
    rcases ofText_eq_ok read with ⟨none, -⟩ | some
    · simp [none] at headed
    · simpa using some.symm.trans headed
  have restored : ∀ {first inner last rest}, Fenced text first inner last rest →
      (join source.raw source.body = text ↔
        inner ≠ [] ∧ first = fenceMark ∧ last = fenceMark ∧ rest ≠ []) := by
    intro first inner last rest fenced
    obtain ⟨raw, body⟩ := parts fenced
    rw [raw, body]
    by_cases ne : inner = []
    · subst ne
      simpa [beforeLine, join] using fenced.join_ne
    · rw [fenced.join_eq_iff ne]
      simp [ne]
  refine ⟨⟨fun same first inner last rest fenced => (restored fenced).1 same, fun bare => ?_⟩, ?_⟩
  · rcases ofText_eq_ok read with ⟨-, raw, body⟩ | headed
    · rw [raw, body, join, if_pos rfl]
    · obtain ⟨first, inner, last, rest, fenced, -⟩ := ofText?_eq_some_iff.1 headed
      exact (restored fenced).2 (bare first inner last rest fenced)
  · intro first inner last rest fenced
    obtain ⟨raw, body⟩ := parts fenced
    refine ⟨raw, body, ?_⟩
    rw [raw, body]
    split
    · next none =>
      subst none
      rfl
    · next ne => exact fenced.lines_join ne

/-- A blank header between bare fences, and a body that begins with a fence. -/
theorem join_ofText_iff_blank :
    let text : Text := "---\n \n\n---\n---\n# Hi\n"
    let source : Source := ⟨[], " \n\n", "---\n# Hi\n"⟩
    Source.ofText text = .ok source ∧
      Fenced text "---" [" ".toList, []] "---" ["---".toList, "# Hi".toList, []] ∧
      lines (join source.raw source.body) =
        ["---".toList, " ".toList, [], "---".toList, "---".toList, "# Hi".toList, []] ∧
      join source.raw source.body = text := by
  intro text source
  have read : Source.ofText text = .ok source := rfl
  have fenced : Fenced text "---" [" ".toList, []] "---" ["---".toList, "# Hi".toList, []] :=
    ⟨by decide, by decide, by decide, by decide⟩
  obtain ⟨whole, parts⟩ := join_ofText_iff read
  obtain ⟨-, -, written⟩ := parts _ _ _ _ fenced
  refine ⟨read, fenced, written, whole.2 fun first inner last rest other => ?_⟩
  obtain ⟨rfl, rfl, rfl, rfl⟩ := fenced.unique other
  exact ⟨by simp, rfl, rfl, by simp⟩

/-- The fences around a header without lines are lost, and so are blanks behind a fence; a fence at
the end of the text gets a line feed. -/
theorem join_ofText_ne :
    let rejoined (text : Text) := (Source.ofText text).map fun source => join source.raw source.body
    rejoined "---\n---\nbody" = .ok "body".toList ∧
      rejoined "--- \n\n---\t\nbody" = .ok "---\n\n---\nbody".toList ∧
      rejoined "---\n\n---" = .ok "---\n\n---\n".toList ∧
      rejoined "---\n---\nbody" ≠ .ok "---\n---\nbody".toList := by
  refine ⟨rfl, rfl, rfl, fun same => ?_⟩
  have texts : "body".toList = "---\n---\nbody".toList := Except.ok.inj same
  exact absurd texts (by decide)

end PageDirectives.Headed
