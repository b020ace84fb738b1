import PageDirectives.Proofs.Engine.Rescans
import PageDirectives.Proofs.Text.LineMerge
import PageDirectives.Proofs.Text.Trimming
/-!
Values of inline directives. A bare line, which has a mark, a name and blanks only, is meant to be no
inline directive, so that under a registration in both forms it can open a block. One blank alone
does not make it one. Of two blanks or more, though, the first stands for the blank behind the name
and the others for a value, of which trimming leaves nothing. So all is as it is meant to be exactly
in texts whose bare lines have fewer than two blanks.
-/
namespace PageDirectives

open Directive

namespace Directive

/-- A line of a text with a name and blanks only, between the lines above and below. -/
structure BareLine (name : Text) (above : List Text) (blanks : Text) (below : List Text)
    (text : Text) : Prop where
  written : Text.lines text = above ++ openingLine name blanks :: below
  blank : ∀ c ∈ blanks, Text.isBlank c = true

variable {name text blanks : Text} {above below : List Text}

theorem inlineLine_eq_ofLine (name : Text) (page : Entries) :
    inlineLine name page =
      LineReader.ofLine fun line => (inlineRest? name line).map (inlineOccurrence page name) := by
  funext line later
  rw [inlineLine, LineReader.ofLine]
  cases rest : inlineRest? name line with
  | none => rfl
  | some tail =>
    obtain ⟨rfl, -⟩ := inlineRest?_eq_some_iff.1 rest
    rfl

theorem BareLine.mem (bare : BareLine name above blanks below text) :
    openingLine name blanks ∈ Text.lines text := by
  rw [bare.written]
  exact List.mem_append_right _ List.mem_cons_self

theorem BareLine.free (bare : BareLine name above blanks below text) : '\n' ∉ blanks :=
  fun newline => Text.areLines_lines text _ bare.mem (List.mem_append_right _ newline)

theorem BareLine.inlineBlank (bare : BareLine name above blanks below text) :
    ∀ c ∈ blanks, Text.isInlineBlank c = true := fun c hc =>
  Text.isInlineBlank_of_isBlank (bare.blank c hc) fun same => bare.free (same ▸ hc)

/-- A bare line is read as an inline directive exactly if it has two blanks at least. -/
theorem BareLine.isInlineTail_iff (bare : BareLine name above blanks below text) :
    isInlineTail blanks = true ↔ 2 ≤ blanks.length :=
  isInlineTail_iff_of_blank bare.blank bare.free

end Directive

namespace Engine

/-- Lines once the inline directives among them are answered. -/
def answeredLines (r : Registration) (page : Entries) (lines : List Text) : List Text :=
  (inlineLine r.name page).exchange r.handler.outcome lines

/-- A text in which every inline directive of a name has a value, no bare line is one, and a bare
line that is closed still lies in a block when a registration in both forms comes to its blocks. -/
structure ValuesFilled (name text : Text) : Prop where
  filled : ∀ page, ∀ s ∈ scan text name .inline page, s.found.value ≠ []
  unread : ∀ above blanks below, BareLine name above blanks below text →
    ∀ page, ∀ s ∈ scan text name .inline page, s.start ≠ (Text.beforeLine above).length
  opens : ∀ above blanks below, BareLine name above blanks below text →
    ∀ (r : Registration) page out, r.name = name →
      (applyForm r page text .inline).result = .ok out →
        let above' := answeredLines r page above
        let below' := answeredLines r page below
        BareLine name above' blanks below' out ∧
          ((∃ line ∈ below', closes line = true) →
            ∃ s ∈ scan out name .block page, s.start ≤ (Text.beforeLine above').length ∧
              (Text.beforeLine above').length + (openingLine name blanks).length ≤ s.stop)

variable {name text blanks : Text} {above below : List Text}

/-- A bare line that is no inline directive is still there once those have been answered. -/
theorem bareLine_of_applyForm {r : Registration} (free : '\n' ∉ r.name)
    (bare : BareLine r.name above blanks below text) (short : isInlineTail blanks = false)
    {page : Entries} {out : Text} (answered : (applyForm r page text .inline).result = .ok out) :
    BareLine r.name (answeredLines r page above) blanks (answeredLines r page below) out := by
  have unread : inlineLine r.name page (openingLine r.name blanks) below = none := by
    refine (inlineLine_eq_none_iff page below).2 (Option.eq_none_iff_forall_ne_some.2 ?_)
    intro rest read
    obtain ⟨same, tail⟩ := inlineRest?_eq_some_iff.1 read
    rw [← List.append_cancel_left same, short] at tail
    exact Bool.noConfusion tail
  have split : answeredLines r page (Text.lines text) =
      answeredLines r page above ++ openingLine r.name blanks :: answeredLines r page below := by
    rw [bare.written, answeredLines, inlineLine_eq_ofLine, LineReader.ofLine_exchange_append,
      ← inlineLine_eq_ofLine, LineReader.exchange_of_none unread]
    rfl
  have result : out = Text.ofLines (answeredLines r page (Text.lines text)) :=
    (applyForm_asks free page .inline text).eq_of_ok answered
  refine ⟨?_, bare.blank⟩
  have ls : Text.AreLines (answeredLines r page (Text.lines text)) :=
    LineReader.areLines_exchange (Text.areLines_lines text)
  have ne := LineReader.exchange_ne_nil (inlineLine r.name page) r.handler.outcome
    (Text.lines_ne_nil text)
  rw [result, ← split]
  exact Text.lines_ofLines ls ne

/-- A bare line with a line below that closes lies in a block of its name. -/
theorem exists_block_of_bareLine (free : '\n' ∉ name)
    (bare : BareLine name above blanks below text) (closed : ∃ line ∈ below, closes line = true)
    (page : Entries) :
    ∃ s ∈ scan text name .block page, s.start ≤ (Text.beforeLine above).length ∧
      (Text.beforeLine above).length + (openingLine name blanks).length ≤ s.stop := by
  have opened : opening? name (openingLine name blanks) = some blanks :=
    opening?_eq_some_iff.2 ⟨rfl, nameEnds_of_blanks bare.inlineBlank⟩
  have reads : (reader name page .block (openingLine name blanks) below).isSome := by
    refine Option.isSome_iff_ne_none.2 fun none => ?_
    rcases blockLines_eq_none_iff.1 none with unread | open'
    · exact nomatch opened.symm.trans unread
    · obtain ⟨line, hl, closes⟩ := closed
      have := List.findIdx?_eq_none_iff.1 open' line hl
      exact Bool.noConfusion (this.symm.trans closes)
  have around := LineReader.exists_around reads 0 above
  rw [Nat.zero_add] at around
  rwa [scan, (recogniser_reads free page .block).all_eq, bare.written]

/-- An inline directive without a value is a bare line with two blanks at least. -/
theorem exists_bareLine_of_mem_scan (free : '\n' ∉ name) {page : Entries} {s : Located Occurrence}
    (hs : s ∈ scan text name .inline page) (empty : s.found.value = []) :
    ∃ above blanks below, BareLine name above blanks below text ∧ 2 ≤ blanks.length := by
  obtain ⟨line, _, _, ⟨above, below, cut, -⟩, read⟩ := exists_lineAt_of_mem_scan free hs
  obtain ⟨tail, rfl, inline, found, -⟩ := reader_inline_eq_some_iff.1 read
  rw [found] at empty
  have bare : BareLine name above tail below text := ⟨cut, Text.trim_eq_nil_iff.1 empty⟩
  exact ⟨above, tail, below, bare, bare.isInlineTail_iff.1 inline⟩

/-- A bare line with two blanks at least is an inline directive without a value. -/
theorem exists_mem_scan_of_bareLine (free : '\n' ∉ name)
    (bare : BareLine name above blanks below text) (long : 2 ≤ blanks.length) (page : Entries) :
    ∃ s ∈ scan text name .inline page,
      s.start = (Text.beforeLine above).length ∧ s.found.value = [] := by
  have read : (inlineRest? name (openingLine name blanks)).map (inlineOccurrence page name) =
      some (inlineOccurrence page name blanks) := by
    rw [inlineRest?_eq_some_iff.2 ⟨rfl, bare.isInlineTail_iff.2 long⟩, Option.map_some]
  obtain ⟨s, mem, start, found⟩ := LineReader.mem_ofLine_allFrom
    (f := fun line => (inlineRest? name line).map (inlineOccurrence page name)) read 0 above below
  rw [← inlineLine_eq_ofLine, ← bare.written] at mem
  refine ⟨s, ?_, start.trans (Nat.zero_add _), ?_⟩
  · rw [scan, (recogniser_reads free page .inline).all_eq]
    exact mem
  · rw [found]
    exact Text.trim_eq_nil_iff.2 bare.blank

/-- Every inline directive of a name has a value, and bare lines are left for blocks to open with,
exactly in texts whose bare lines have fewer than two blanks behind the name. -/
theorem valuesFilled_iff (valid : Text.isName name = true) (text : Text) :
    ValuesFilled name text ↔
      ∀ above blanks below, BareLine name above blanks below text → blanks.length < 2 := by
  have free := Text.newline_notMem_of_isName valid
  constructor
  · intro values above blanks below bare
    by_contra long
    obtain ⟨s, hs, -, empty⟩ := exists_mem_scan_of_bareLine free bare (Nat.le_of_not_lt long) []
    exact values.filled [] s hs empty
  · intro short
    have unread {above below : List Text} {blanks : Text}
        (bare : BareLine name above blanks below text) : isInlineTail blanks = false := by
      refine Bool.eq_false_iff.2 fun inline => ?_
      exact absurd (bare.isInlineTail_iff.1 inline) (Nat.not_le.2 (short _ _ _ bare))
    refine ⟨fun page s hs empty => ?_, fun above blanks below bare page s hs start => ?_, ?_⟩
    · obtain ⟨above, blanks, below, bare, long⟩ := exists_bareLine_of_mem_scan free hs empty
      exact absurd long (Nat.not_le.2 (short _ _ _ bare))
    · obtain ⟨line, _, _, lineAt, read⟩ := exists_lineAt_of_mem_scan free hs
      obtain ⟨tail, rfl, inline, -, -⟩ := reader_inline_eq_some_iff.1 read
      have same := lineAt.unique ⟨above, below, bare.written, start⟩
      rw [List.append_cancel_left same, unread bare] at inline
      exact Bool.noConfusion inline
    · rintro above blanks below bare r page out rfl answered
      have stays := bareLine_of_applyForm free bare (unread bare) answered
      exact ⟨stays, fun closed => exists_block_of_bareLine free stays closed page⟩

/-- A bare line with one blank, between an inline directive and the line that closes. -/
theorem valuesFilled_of_one_blank :
    let text : Text := "::x a\n::x \nbody\n::end"
    Text.isName "x" = true ∧
      (scan text "x" .inline []).map (fun s => (s.start, s.found.value)) = [(0, ['a'])] ∧
      (scan text "x" .block []).map (fun s => (s.start, s.stop)) = [(0, 21)] ∧
      ValuesFilled "x" text := by
  intro text
  have short : ∀ line ∈ Text.lines text, ∀ tail ∈ Text.after? (mark ++ "x".toList) line,
      Text.isAllBlank tail = true → tail.length < 2 := by decide
  refine ⟨by decide, by decide +kernel, by decide +kernel,
    (valuesFilled_iff (by decide) text).2 fun above blanks below bare => ?_⟩
  exact short _ bare.mem blanks (Text.after?_append _ _) (List.all_eq_true.2 bare.blank)

/-- Behind two blanks there is an empty value, and the block that the line would open is gone. -/
theorem not_valuesFilled :
    let text : Text := "::x  \nbody\n::end"
    let r : Registration := ⟨"x", .both, 100, ⟨.custom none, fun _ => .ok (.text "X")⟩⟩
    (scan text "x" .inline []).map (fun s => (s.start, s.stop, s.found.value)) = [(0, 5, [])] ∧
      (scan text "x" .block []).map (fun s => (s.start, s.stop)) = [(0, 16)] ∧
      (applyForms r [] text).result = .ok "X\nbody\n::end".toList ∧
      ¬ ValuesFilled "x" text := by
  intro text r
  have scanned : (scan text "x" .inline []).map (fun s => (s.start, s.stop, s.found.value)) =
      [(0, 5, [])] := by decide +kernel
  refine ⟨scanned, by decide +kernel, by decide +kernel, fun values => ?_⟩
  obtain ⟨s, hs, same⟩ := List.mem_map.1 (scanned ▸ List.mem_singleton_self _)
  exact values.filled [] s hs (congrArg (fun x => x.2.2) same)

end Engine
end PageDirectives
