import PageDirectives.Proofs.Text.Lines
import PageDirectives.Proofs.Text.Search
/-!
Splicing as weaving. Spans in order cut a text into pieces and gaps; woven together again they are
the text, and splicing weaves other pieces between the same gaps. So a splice keeps every character
outside of the spans, whatever takes their places, and whole lines that no span touches stay lines.
-/
namespace PageDirectives.Splice

/-- Gaps with a piece between each two. -/
def weave : (gaps pieces : List Text) → Text
  | gap :: gaps, piece :: pieces => gap ++ piece ++ weave gaps pieces
  | gaps, _ => gaps.flatten

/-- What a text has from a cursor on before, between and behind spans. -/
def gaps (text : Text) (cursor : Nat) : List (Nat × Nat) → List Text
  | [] => [text.drop cursor]
  | (start, stop) :: rest => Text.slice text cursor start :: gaps text stop rest

theorem length_gaps (text : Text) (cursor : Nat) (spans : List (Nat × Nat)) :
    (gaps text cursor spans).length = spans.length + 1 := by
  induction spans generalizing cursor with
  | nil => rfl
  | cons span spans ih => rw [gaps, List.length_cons, ih, List.length_cons]

theorem behind_zip (text : Text) (cursor : Nat) {spans : List (Nat × Nat)} {others : List Text}
    (same : spans.length = others.length) :
    behind text cursor (spans.zip others) = weave (gaps text cursor spans) others := by
  induction spans generalizing cursor others with
  | nil =>
    obtain rfl := List.eq_nil_of_length_eq_zero same.symm
    simp [behind, gaps, weave]
  | cons span spans ih =>
    cases others with
    | nil => simp at same
    | cons other others =>
      rw [List.zip_cons_cons, behind, gaps, weave, ih span.2 (Nat.succ.inj same)]

theorem weave_slices (text : Text) {cursor : Nat} {spans : List (Nat × Nat)}
    (within : ∀ s ∈ spans, cursor ≤ s.1 ∧ s.1 ≤ s.2)
    (apart : spans.Pairwise fun s t => s.2 ≤ t.1) :
    weave (gaps text cursor spans) (spans.map fun s => Text.slice text s.1 s.2) =
      text.drop cursor := by
  induction spans generalizing cursor with
  | nil => simp [gaps, weave]
  | cons span spans ih =>
    obtain ⟨⟨le, width⟩, others⟩ := List.forall_mem_cons.1 within
    obtain ⟨behind, apart⟩ := List.pairwise_cons.1 apart
    have rest := ih (fun s hs => ⟨behind s hs, (others s hs).2⟩) apart
    rw [gaps, List.map_cons, weave, rest, List.append_assoc, Text.slice_append_drop text width,
      Text.slice_append_drop text le]

theorem slice_append_behind (text : Text) {cursor next : Nat} (le : cursor ≤ next)
    {spans : List ((Nat × Nat) × Text)} (ahead : ∀ s ∈ spans, next ≤ s.1.1) :
    Text.slice text cursor next ++ behind text next spans = behind text cursor spans := by
  cases spans with
  | nil => exact Text.slice_append_drop text le
  | cons span spans =>
    obtain ⟨⟨start, stop⟩, other⟩ := span
    rw [behind, behind, ← List.append_assoc, ← List.append_assoc,
      Text.slice_append text le (ahead _ List.mem_cons_self)]

/-- Spans on the two sides of a cut are spliced apart from each other. -/
theorem behind_append (text : Text) {cursor cut : Nat} (le : cursor ≤ cut)
    {front back : List ((Nat × Nat) × Text)} (within : ∀ s ∈ front, s.1.1 ≤ s.1.2 ∧ s.1.2 ≤ cut)
    (ahead : ∀ s ∈ back, cut ≤ s.1.1) :
    behind text cursor (front ++ back) =
      behind (text.take cut) cursor front ++ behind text cut back := by
  have cutSlice (start stop : Nat) (le : stop ≤ cut) :
      Text.slice (text.take cut) start stop = Text.slice text start stop := by
    rw [Text.slice, Text.slice, List.drop_take, List.take_take, Nat.min_eq_left (by omega)]
  induction front generalizing cursor with
  | nil =>
    rw [List.nil_append, ← slice_append_behind text le ahead, behind, List.drop_take]
    rfl
  | cons span front ih =>
    obtain ⟨⟨start, stop⟩, other⟩ := span
    obtain ⟨⟨width, reach⟩, within⟩ := List.forall_mem_cons.1 within
    rw [List.cons_append, behind, behind, ih reach within, List.append_assoc,
      cutSlice cursor start (Nat.le_trans width reach), List.append_assoc, List.append_assoc]

/-- A form that stays as it is need not be spliced. -/
theorem behind_filter {α : Type} (text : Text) (p : Located α → Bool) (image : Located α → Text)
    {cursor : Nat} {hits : List (Located α)} (within : ∀ s ∈ hits, cursor ≤ s.start ∧ s.start ≤ s.stop)
    (apart : hits.Pairwise fun s t => s.stop ≤ t.start)
    (kept : ∀ s ∈ hits, p s = false → image s = Text.slice text s.start s.stop) :
    behind text cursor ((hits.filter p).map fun s => ((s.start, s.stop), image s)) =
      behind text cursor (hits.map fun s => ((s.start, s.stop), image s)) := by
  induction hits generalizing cursor with
  | nil => rfl
  | cons hit hits ih =>
    obtain ⟨⟨le, width⟩, others⟩ := List.forall_mem_cons.1 within
    obtain ⟨same, kept⟩ := List.forall_mem_cons.1 kept
    obtain ⟨ahead, apart⟩ := List.pairwise_cons.1 apart
    have rest := ih (fun s hs => ⟨ahead s hs, (others s hs).2⟩) apart kept
    rw [List.map_cons, behind, ← rest]
    cases h : p hit with
    | true => rw [List.filter_cons_of_pos h, List.map_cons, behind]
    | false =>
      rw [List.filter_cons_of_neg (by simp [h]), same h, Text.slice_append text le width]
      refine (slice_append_behind text (Nat.le_trans le width) (List.forall_mem_map.2 fun s hs => ?_)).symm
      exact ahead s (List.mem_filter.1 hs).1

/-- What is spliced above a line leaves whole lines there. -/
theorem exists_behind_above {before : List Text} {spans : List ((Nat × Nat) × Text)}
    (within : ∀ s ∈ spans, s.1.1 ≤ s.1.2 ∧ s.1.2 < (Text.beforeLine before).length) :
    ∃ front, Text.AreLines front ∧
      behind (Text.beforeLine before) 0 spans = Text.beforeLine front := by
  by_cases ne : before = []
  · subst ne
    cases spans with
    | nil => exact ⟨[], Text.areLines_nil, rfl⟩
    | cons span spans => exact absurd (within span List.mem_cons_self).2 (Nat.not_lt_zero _)
  · have closed := Text.beforeLine_eq ne
    have short : ∀ s ∈ spans, s.1.1 ≤ s.1.2 ∧ s.1.2 ≤ (Text.ofLines before).length := by
      intro s hs
      obtain ⟨width, lt⟩ := within s hs
      rw [closed, List.length_append, List.length_singleton] at lt
      exact ⟨width, Nat.le_of_lt_succ lt⟩
    have cut : behind (Text.beforeLine before) 0 (spans ++ []) = _ :=
      behind_append _ (Nat.zero_le _) short (by simp)
    rw [List.append_nil, closed, List.take_left, behind, List.drop_left, ← closed] at cut
    exact ⟨_, Text.areLines_lines _, cut.trans (Text.beforeLine_lines _).symm⟩

/-- What is spliced below a line leaves whole lines there. -/
theorem exists_behind_below {text front : Text} {after : List Text}
    (written : text = front ++ Text.afterLine after) {spans : List ((Nat × Nat) × Text)}
    (within : ∀ s ∈ spans, front.length < s.1.1 ∧ s.1.1 < text.length) :
    ∃ back, Text.AreLines back ∧ behind text front.length spans = Text.afterLine back := by
  cases after with
  | nil =>
    rw [Text.afterLine_nil, List.append_nil] at written
    subst written
    cases spans with
    | nil => exact ⟨[], Text.areLines_nil, by rw [behind, List.drop_length]; rfl⟩
    | cons span spans =>
      obtain ⟨above, below⟩ := within span List.mem_cons_self
      omega
  | cons next after =>
    have ahead : ∀ s ∈ spans, front.length + 1 ≤ s.1.1 := fun s hs => (within s hs).1
    have feed : Text.slice text front.length (front.length + 1) = ['\n'] := by
      rw [written, Text.slice, List.drop_left, Text.afterLine_cons, Nat.add_sub_cancel_left]
      rfl
    have cut := slice_append_behind text (Nat.le_succ front.length) ahead
    rw [feed, List.singleton_append, ← Text.afterLine_lines] at cut
    exact ⟨_, Text.areLines_lines _, cut.symm⟩

/-- Lines that no span touches are kept, as lines. -/
theorem exists_lines_behind {text : Text} {before kept after : List Text}
    (written : Text.lines text = before ++ (kept ++ after)) (ne : kept ≠ [])
    {front back : List ((Nat × Nat) × Text)}
    (above : ∀ s ∈ front, s.1.1 ≤ s.1.2 ∧ s.1.2 < (Text.beforeLine before).length)
    (below : ∀ s ∈ back, (Text.beforeLine before ++ Text.ofLines kept).length < s.1.1 ∧
      s.1.1 < text.length) :
    ∃ first last, Text.lines (behind text 0 (front ++ back)) = first ++ (kept ++ last) := by
  have lines := Text.areLines_lines text
  rw [written, Text.areLines_append, Text.areLines_append] at lines
  have whole : text = Text.beforeLine before ++ Text.ofLines kept ++ Text.afterLine after := by
    rw [← Text.ofLines_lines text, written, Text.ofLines_append_right before (by simp [ne]),
      Text.ofLines_append ne, List.append_assoc]
  obtain ⟨first, firstLines, front_eq⟩ := exists_behind_above above
  obtain ⟨last, lastLines, back_eq⟩ := exists_behind_below whole below
  have reach : (Text.beforeLine before).length ≤
      (Text.beforeLine before ++ Text.ofLines kept).length := by
    rw [List.length_append]
    exact Nat.le_add_right _ _
  have cutFront : text.take (Text.beforeLine before).length = Text.beforeLine before := by
    rw [whole, List.append_assoc, List.take_left]
  have between : Text.slice text (Text.beforeLine before).length
      (Text.beforeLine before ++ Text.ofLines kept).length = Text.ofLines kept := by
    rw [Text.slice, whole, List.append_assoc, List.drop_left, List.length_append,
      Nat.add_sub_cancel_left, List.take_left]
  have short : ∀ s ∈ front, s.1.1 ≤ s.1.2 ∧ s.1.2 ≤ (Text.beforeLine before).length :=
    fun s hs => ⟨(above s hs).1, Nat.le_of_lt (above s hs).2⟩
  have ahead : ∀ s ∈ back, (Text.beforeLine before ++ Text.ofLines kept).length ≤ s.1.1 :=
    fun s hs => Nat.le_of_lt (below s hs).1
  have spliced : behind text 0 (front ++ back) = Text.ofLines (first ++ (kept ++ last)) := by
    rw [behind_append text (Nat.zero_le _) short fun s hs => Nat.le_trans reach (ahead s hs),
      ← slice_append_behind text reach ahead, cutFront, between, front_eq, back_eq,
      ← Text.ofLines_append ne, ← Text.ofLines_append_right first (by simp [ne])]
  refine ⟨first, last, ?_⟩
  rw [spliced, Text.lines_ofLines (by simp [firstLines, lines.2.1, lastLines]) (by simp [ne])]

end PageDirectives.Splice
