import Mathlib.Data.List.Nodup
import PageDirectives.Proofs.Completion.LineForms
import PageDirectives.Proofs.Text.Rounds
/-!
The directives that ask for completions, in document order. Two searches, for blocks and for inline
directives, are put together by where their forms start and drop inline directives inside blocks.
This is one search from top to bottom that tries a block first at every line.
-/
namespace PageDirectives.Prompted

open Directive

theorem insertByStart_perm (hit : Located Prompted) (hits : List (Located Prompted)) :
    (insertByStart hit hits).Perm (hit :: hits) := by
  induction hits with
  | nil => exact List.Perm.refl _
  | cons first rest ih =>
    rw [insertByStart]
    split
    · exact List.Perm.refl _
    · exact (ih.cons first).trans (List.Perm.swap hit first rest)

theorem insertByStart_pairwise (hit : Located Prompted) {hits : List (Located Prompted)}
    (h : hits.Pairwise fun s t => s.start ≤ t.start) :
    (insertByStart hit hits).Pairwise fun s t => s.start ≤ t.start := by
  induction hits with
  | nil => exact List.pairwise_singleton _ _
  | cons first rest ih =>
    obtain ⟨least, others⟩ := List.pairwise_cons.1 h
    rw [insertByStart]
    split
    · next lt =>
      refine List.pairwise_cons.2 ⟨fun s hs => ?_, h⟩
      rcases List.mem_cons.1 hs with rfl | hs
      · exact Nat.le_of_lt lt
      · exact Nat.le_trans (Nat.le_of_lt lt) (least s hs)
    · next ge =>
      refine List.pairwise_cons.2 ⟨fun s hs => ?_, ih others⟩
      rcases List.mem_cons.1 ((insertByStart_perm hit rest).mem_iff.1 hs) with rfl | hs
      · exact Nat.not_lt.1 ge
      · exact least s hs

theorem foldl_insertByStart (inlines : List (Located Prompted)) {blocks : List (Located Prompted)}
    (h : blocks.Pairwise fun s t => s.start ≤ t.start) :
    (inlines.foldl (fun hits hit => insertByStart hit hits) blocks).Perm (blocks ++ inlines) ∧
      (inlines.foldl (fun hits hit => insertByStart hit hits) blocks).Pairwise
        fun s t => s.start ≤ t.start := by
  induction inlines generalizing blocks with
  | nil => exact ⟨by simp, h⟩
  | cons hit inlines ih =>
    obtain ⟨same, sorted⟩ := ih (insertByStart_pairwise hit h)
    refine ⟨same.trans ?_, sorted⟩
    exact ((insertByStart_perm hit blocks).append_right inlines).trans List.perm_middle.symm

/-- Recognises a block, or else an inline directive. -/
def form : Recogniser Prompted := fun lineStart text =>
  (blockForm lineStart text).or (inlineForm lineStart text)

theorem form_reads : form.Reads reader := blockForm_reads.orElse inlineForm_reads

theorem reader_nil (later : List Text) : reader [] later = none := form_reads.emptyLine later

theorem all_eq (text : Text) : all text = reader.allFrom 0 (Text.lines text) := by
  let blocks := blockLines.allFrom 0 (Text.lines text)
  let inlines := (LineReader.ofLine inlineLine?).allFrom 0 (Text.lines text)
  have merged : all text = (LineReader.outside blocks inlines).foldl
      (fun hits hit => insertByStart hit hits) blocks := by
    rw [all, blockForm_reads.all_eq, inlineForm_reads.all_eq]
    rfl
  have ordered := LineReader.allFrom_pairwise_start reader_nil 0 (Text.lines text)
  have starts : ((reader.allFrom 0 (Text.lines text)).map (·.start)).Nodup :=
    List.pairwise_map.2 (ordered.imp Nat.ne_of_lt)
  have sorted : blocks.Pairwise fun s t => s.start ≤ t.start :=
    (LineReader.allFrom_pairwise_start (fun _ => rfl) 0 _).imp Nat.le_of_lt
  obtain ⟨same, sorted⟩ := foldl_insertByStart (LineReader.outside blocks inlines) sorted
  have perm : (all text).Perm (reader.allFrom 0 (Text.lines text)) := by
    rw [merged]
    exact same.trans (LineReader.allFrom_orElse_perm (fun _ => rfl) rfl 0 _).symm
  -- both lists are in order, and no two forms start at the same place
  have unique : ∀ s t, s ∈ all text → t ∈ reader.allFrom 0 (Text.lines text) →
      s.start ≤ t.start → t.start ≤ s.start → s = t := by
    intro s t hs ht le ge
    exact List.inj_on_of_nodup_map starts (perm.mem_iff.1 hs) ht (Nat.le_antisymm le ge)
  exact perm.eq_of_pairwise unique (merged ▸ sorted) (ordered.imp Nat.le_of_lt)

theorem bounds_of_mem_all {text : Text} {s : Located Prompted} (h : s ∈ all text) :
    s.start < s.stop ∧ s.stop ≤ text.length := by
  rw [all_eq] at h
  obtain ⟨-, lt, within⟩ := LineReader.bounds_of_mem_allFrom reader_nil h
  rw [Text.ofLines_lines, Nat.zero_add] at within
  exact ⟨lt, within⟩

theorem all_pairwise (text : Text) : (all text).Pairwise fun s t => s.stop < t.start := by
  rw [all_eq]
  exact LineReader.allFrom_pairwise reader_nil 0 _

theorem all_eq_search (text : Text) : all text = Search.all form text := by
  rw [all_eq, form_reads.all_eq]

/-- Recognises what has the shape of a block, whatever its arguments are. -/
def blockShape : Recogniser Prompted := fun lineStart text =>
  if !lineStart then none
  else do
    let (size, rest) ← opening? text
    if !nameEnds rest then none
    let tail ← blockTail? closes rest
    some (⟨true, Text.trim tail.args, tail.body⟩, size + tail.size)

/-- Whether the arguments of a block are only pairs. -/
def hasOnlyPairs (p : Prompted) : Bool := p.args = [] ∨ Argument.isOnlyPairs p.args

theorem blockForm_eq : blockForm = blockShape.accepting hasOnlyPairs := by
  funext flag text
  simp only [blockForm, Recogniser.accepting, blockShape, hasOnlyPairs]
  split
  · rfl
  · cases opening? text with
    | none => rfl
    | some read =>
      obtain ⟨size, rest⟩ := read
      simp only [Option.bind_eq_bind, Option.bind_some]
      split
      · rfl
      · cases blockTail? closes rest with
        | none => rfl
        | some tail => simp [Option.filter]

/-- The directives that ask for completions are those that reading the lines from top to bottom
finds, in order and apart from each other. A line of inline shape lies in exactly one of them. The
blocks are found in a bounded number of rounds. -/
theorem all_eq_allFrom_lines (text : Text) :
    all text = reader.allFrom 0 (Text.lines text) ∧
      (all text).Pairwise (fun s t => s.stop < t.start) ∧
      (∀ s ∈ all text, s.start < s.stop ∧ s.stop ≤ text.length) ∧
      (∀ before blanks tail later,
        Text.lines text = before ++ (blanks ++ (mark ++ name ++ tail)) :: later →
        (∀ c ∈ blanks, Text.isInlineBlank c = true) → isInlineTail tail = true →
        ∃! s, s ∈ all text ∧ s.start ≤ (Text.beforeLine before).length ∧
          (Text.beforeLine before).length + (blanks ++ (mark ++ name ++ tail)).length ≤ s.stop) ∧
      Search.rounds blockShape hasOnlyPairs text (text.length + 1) 0 =
        some (Search.all blockForm text) := by
  refine ⟨all_eq text, all_pairwise text, fun s hs => bounds_of_mem_all hs, ?_, ?_⟩
  · intro before blanks tail later lines blank shape
    have reads := reader_isSome (rest?_eq_some_iff.2 ⟨blanks, rfl, blank⟩) shape
    rw [all_eq, lines]
    simpa only [Nat.zero_add] using LineReader.existsUnique_around reader_nil reads 0 before later
  · rw [blockForm_eq]
    exact Search.rounds_length blockShape hasOnlyPairs text

/-- An inline directive in the body of a block, one before a terminator that closes nothing, and a
bare opening line. -/
theorem all_eq_allFrom_lines_mixed :
    let text : Text := "::ai hi\n::ai model=x\nbody\n  ::ai inner\n ::end \n::ai a b\n::end\n::ai"
    let before : List Text := ["::ai hi", "::ai model=x", "body"]
    let later : List Text := [" ::end ", "::ai a b", "::end", "::ai"]
    (all text).map (fun s => (s.start, s.stop, s.found.isBlock)) =
        [(0, 7, false), (8, 46, true), (47, 55, false)] ∧
      Text.lines text = before ++ ("  " ++ (mark ++ name ++ " inner")) :: later ∧
      all text = reader.allFrom 0 (Text.lines text) ∧
      ∃! s, s ∈ all text ∧ s.start ≤ (Text.beforeLine before).length ∧
        (Text.beforeLine before).length +
          ("  " ++ (mark ++ name ++ " inner") : Text).length ≤ s.stop := by
  intro text before later
  have lines : Text.lines text = before ++ ("  " ++ (mark ++ name ++ " inner")) :: later := by
    decide
  exact ⟨by decide +kernel, lines, (all_eq_allFrom_lines text).1,
    (all_eq_allFrom_lines text).2.2.2.1 before "  " " inner" later lines
      (List.all_eq_true.1 (by decide)) (by decide)⟩

end PageDirectives.Prompted
