import PageDirectives.Cleanup.Run
import PageDirectives.Proofs.Directive.LineScan
import PageDirectives.Proofs.Text.Cuts
import PageDirectives.Proofs.Text.LineSpans
/-!
Fences that come off, line by line. An opening line goes together with the next line that closes a
fence, and what stands between the two stays. The line directly behind the opening one is not tried
as a closing line, so a fence with nothing in it is not read as such, and its opening line goes
together with the closing line of a later fence. Where there is no such fence, every opening line
goes together with the first closing line behind it.
-/
namespace PageDirectives

namespace LineReader

variable {α β : Type}

/-- Reads what a reader does, and says something else about it. -/
def map (f : α → β) (R : LineReader α) : LineReader β := fun line later =>
  (R line later).map fun (found, more) => (f found, more)

/-- Where the forms lie that a reader finds in the lines of a text that begins at an offset. -/
def spansFrom (R : LineReader α) (offset : Nat) (lines : List Text) : List (Nat × Nat) :=
  (R.allFrom offset lines).map fun s => (s.start, s.stop)

theorem allFrom_map (f : α → β) (R : LineReader α) (offset : Nat) (lines : List Text) :
    (R.map f).allFrom offset lines =
      (R.allFrom offset lines).map fun s => ⟨s.start, s.stop, f s.found⟩ := by
  fun_induction R.allFrom offset lines with
  | case1 => simp only [allFrom, List.map_nil]
  | case2 offset line later hR ih =>
    rw [allFrom, map, hR]
    exact ih
  | case3 offset line later a more hR stop ih =>
    rw [allFrom, map, hR, List.map_cons]
    exact congrArg _ ih

end LineReader

namespace Cleanup

/-- Reads a fence in lines: an opening line and the next closing line, for which a number of lines
directly behind the opening one are not tried. It says which lines stand between. -/
def fenceLines (untried : Nat) (opening : Text) : LineReader (List Text) := fun line later =>
  if line = opening then
    ((later.drop untried).findIdx? (· == fence)).map fun n =>
      (later.take (untried + n), untried + n + 1)
  else none

/-- Lines with each fence in them exchanged for the lines that stand between its opening line and its
closing line. -/
def unwrapLines (untried : Nat) (opening : Text) : List Text → List Text
  | [] => []
  | line :: later =>
    match fenceLines untried opening line later with
    | none => line :: unwrapLines untried opening later
    | some (between, more) => between ++ unwrapLines untried opening (later.drop more)
termination_by lines => lines.length
decreasing_by all_goals simp; try omega

variable {language line text opening : Text} {later : List Text}

theorem notMem_fence : '\n' ∉ fence := by decide

theorem after?_opening {mark : Text} (free : '\n' ∉ mark) (ls : Text.AreLines (line :: later)) :
    Text.after? (mark ++ ['\n']) (Text.ofLines (line :: later)) =
      if line = mark ∧ later ≠ [] then some (Text.ofLines later) else none := by
  rw [Text.ofLines_cons, Text.after?_append_mark, Text.after?_line free]
  cases read : Text.after? mark line with
  | none =>
    have other : line ≠ mark := by
      rintro rfl
      have := Text.after?_append line []
      rw [List.append_nil, read] at this
      exact nomatch this
    simp [other]
  | some rest =>
    obtain rfl := Text.after?_eq_some read
    cases rest with
    | nil =>
      cases later with
      | nil => simp [Text.after?]
      | cons next later => simp [Text.afterLine_cons, Text.after?]
    | cons c rest =>
      have ne : '\n' ≠ c := by
        rintro rfl
        exact (Text.areLines_cons.1 ls).1 (List.mem_append_right _ List.mem_cons_self)
      simp [Text.after?, ne]

theorem closesFence_of_ne {c : Char} (ne : '\n' ≠ c) (text : Text) :
    closesFence (c :: text) = false := by
  simp [closesFence, Text.after?, ne]

/-- A line closes a fence if it is the mark of fences and nothing else. -/
theorem closesFence_afterLine (free : '\n' ∉ line) (later : List Text) :
    closesFence (Text.afterLine (line :: later)) = (line == fence) := by
  have read := Text.after?_line notMem_fence line later
  rw [Text.afterLine_cons, Text.ofLines_cons, closesFence, Text.after?, if_pos rfl, read]
  cases own : Text.after? fence line with
  | none =>
    have other : line ≠ fence := by
      rintro rfl
      exact absurd own (by decide)
    simp [other]
  | some rest =>
    obtain rfl := Text.after?_eq_some own
    cases rest with
    | nil => cases later <;> simp [Text.afterLine_cons]
    | cons c rest =>
      have ne : c ≠ '\n' := by
        rintro rfl
        exact free (List.mem_append_right _ List.mem_cons_self)
      simp [ne]

theorem before?_line {p : Text → Bool} (inside : ∀ c text, '\n' ≠ c → p (c :: text) = false)
    (free : '\n' ∉ line) (rest : Text) :
    before? p (line ++ rest) = (before? p rest).map (line ++ ·) := by
  induction line with
  | nil => simp
  | cons c line ih =>
    rw [List.mem_cons, not_or] at free
    rw [List.cons_append, before?, inside c _ free.1, if_neg Bool.false_ne_true, ih free.2,
      Option.map_map]
    rfl

/-- A body ends in front of the first closing line below its first line. -/
theorem before?_closesFence (ls : Text.AreLines (line :: later)) :
    before? closesFence (Text.ofLines (line :: later)) =
      (later.findIdx? (· == fence)).map fun n => Text.ofLines (line :: later.take n) := by
  induction later generalizing line with
  | nil =>
    have free := (Text.areLines_cons.1 ls).1
    rw [Text.ofLines_cons, before?_line (fun c text ne => closesFence_of_ne ne text) free]
    rfl
  | cons next later ih =>
    obtain ⟨free, others⟩ := Text.areLines_cons.1 ls
    have closes := closesFence_afterLine (Text.areLines_cons.1 others).1 later
    rw [Text.afterLine_cons] at closes
    rw [Text.ofLines_cons, before?_line (fun c text ne => closesFence_of_ne ne text) free,
      Text.afterLine_cons, before?, closes, ih others, List.findIdx?_cons]
    cases next == fence with
    | true => simp [Text.ofLines_cons]
    | false =>
      simp only [Bool.false_eq_true, if_false, Option.map_map]
      congr 1

theorem fenceLines_of_ne (untried : Nat) (other : line ≠ opening) :
    fenceLines untried opening line later = none := if_neg other

/-- What a fence takes: lines that stand between, and a closing line. -/
theorem exists_of_fenceLines {untried more : Nat} {between : List Text}
    (read : fenceLines untried opening line later = some (between, more)) :
    line = opening ∧ untried < more ∧ between = later.take (more - 1) ∧
      later.take more = between ++ [fence] ∧ more ≤ later.length := by
  rw [fenceLines] at read
  split at read
  · next same =>
    obtain ⟨n, closes, rest⟩ := Option.map_eq_some_iff.1 read
    obtain ⟨rfl, rfl⟩ := Prod.mk.inj rest
    obtain ⟨lt, isFence, -⟩ := List.findIdx?_eq_some_iff_getElem.1 closes
    rw [List.getElem_drop, beq_iff_eq] at isFence
    rw [List.length_drop] at lt
    refine ⟨same, by omega, rfl, ?_, by omega⟩
    rw [List.take_succ_eq_append_getElem (by omega), isFence]
  · exact nomatch read

theorem fenced_eq (language text : Text) :
    fenced language true text =
      ((Text.after? (fence ++ language ++ ['\n']) text).bind (before? closesFence)).map fun body =>
        (body, (fence ++ language ++ ['\n']).length + body.length + 1 + fence.length) := by
  rw [fenced]
  simp only [Bool.not_true, Bool.false_eq_true, if_false, Option.bind_eq_bind]
  cases Text.after? (fence ++ language ++ ['\n']) text with
  | none => rfl
  | some rest =>
    rw [Option.bind_some, Option.bind_some]
    cases before? closesFence rest <;> rfl

/-- How many characters lines take with a closing line below them. -/
theorem length_ofLines_closed (line : Text) {between : List Text} (ne : between ≠ []) :
    (Text.ofLines (line :: (between ++ [fence]))).length =
      line.length + 1 + (Text.ofLines between).length + 1 + fence.length := by
  have size := Text.length_ofLines_cons line (List.append_ne_nil_of_left_ne_nil ne [fence])
  rw [size, Text.ofLines_append ne, List.length_append, Text.afterLine_cons, Text.ofLines_cons,
    Text.afterLine_nil, List.append_nil, List.length_cons]
  omega

/-- A fence is read in a text as in its lines, where the line directly behind the opening one is not
tried as a closing line. -/
theorem fenced_reads (free : '\n' ∉ language) :
    (fenced language).Reads ((fenceLines 1 (fence ++ language)).map Text.ofLines) where
  insideLine _ := rfl
  emptyLine later := by rw [LineReader.map, fenceLines_of_ne 1 (by simp [fence])]; rfl
  lineStart line later ls := by
    have mark : '\n' ∉ fence ++ language := by simp [notMem_fence, free]
    rw [fenced_eq, after?_opening mark ls, LineReader.map]
    by_cases same : line = fence ++ language
    · subst same
      cases later with
      | nil => simp [fenceLines]
      | cons next later =>
        rw [if_pos ⟨rfl, List.cons_ne_nil next later⟩, Option.bind_some,
          before?_closesFence (Text.areLines_cons.1 ls).2]
        cases closes : later.findIdx? (· == fence) with
        | none => simp [fenceLines, closes]
        | some n =>
          have front : (next :: later).take (1 + n) = next :: later.take n := by
            rw [Nat.add_comm, List.take_succ_cons]
          have form : fenceLines 1 (fence ++ language) (fence ++ language) (next :: later) =
              some (next :: later.take n, 1 + n + 1) := by
            simp [fenceLines, closes, front]
          obtain ⟨-, -, -, whole, -⟩ := exists_of_fenceLines form
          simp only [form, Option.map_some, whole,
            length_ofLines_closed _ (List.cons_ne_nil next (later.take n)), List.length_append,
            List.length_singleton]
    · rw [fenceLines_of_ne 1 same]
      simp [same]

/-- Where each fence has lines between its opening line and its closing line, exchanging a fence for
the text of these lines puts the lines themselves in its place. -/
theorem exchange_fenceLines (opening : Text) {lines : List Text} (ls : Text.AreLines lines) :
    ((fenceLines 1 opening).map Text.ofLines).exchange id lines = unwrapLines 1 opening lines := by
  fun_induction unwrapLines 1 opening lines with
  | case1 => exact LineReader.exchange_nil
  | case2 line later unread ih =>
    have none : (fenceLines 1 opening).map Text.ofLines line later = none := by
      rw [LineReader.map, unread]
      rfl
    rw [LineReader.exchange_of_none none, ih (Text.areLines_cons.1 ls).2]
  | case3 line later between more read ih =>
    obtain ⟨-, lt, same, -, le⟩ := exists_of_fenceLines read
    have form : (fenceLines 1 opening).map Text.ofLines line later =
        some (Text.ofLines between, more) := by
      rw [LineReader.map, read]
      rfl
    have behind := (Text.areLines_cons.1 ls).2
    have filled : between ≠ [] := by
      rw [same, ← List.length_pos_iff, List.length_take]
      omega
    rw [LineReader.exchange_of_some form, ih (behind.drop more), id,
      Text.lines_ofLines (same ▸ behind.take (more - 1)) filled]

theorem unwrapFences_eq (free : '\n' ∉ language) (text : Text) :
    unwrapFences language text =
      Text.ofLines (unwrapLines 1 (fence ++ language) (Text.lines text)) := by
  rw [unwrapFences, (fenced_reads free).exchange_eq, exchange_fenceLines _ (Text.areLines_lines text)]

theorem unwrap_singleton (language text : Text) :
    unwrap (.list [.text language]) text = .ok (unwrapFences language text) := rfl

section Empty

/-- The two ways of looking for a closing line read the same, unless the one that tries every line reads
a fence without lines in it. -/
theorem fenceLines_cases (opening line : Text) (later : List Text) :
    (fenceLines 1 opening line later = fenceLines 0 opening line later ∧
      ∀ more, fenceLines 0 opening line later ≠ some ([], more)) ∨
    fenceLines 0 opening line later = some ([], 1) := by
  by_cases same : line = opening
  · cases later with
    | nil => exact .inl (by simp [fenceLines])
    | cons next later =>
      by_cases closes : next = fence
      · exact .inr (by simp [fenceLines, same, closes, List.findIdx?_cons])
      · refine .inl ?_
        cases found : later.findIdx? (· == fence) with
        | none => simp [fenceLines, same, closes, found, List.findIdx?_cons]
        | some n => simp [fenceLines, same, closes, found, List.findIdx?_cons, Nat.add_comm]
  · simp [fenceLines_of_ne _ same]

theorem length_ofLines_take_lt (line : Text) {later : List Text} {n more : Nat} (lt : n < more)
    (le : more ≤ later.length) :
    (Text.ofLines (line :: later.take n)).length <
      (Text.ofLines (line :: later.take more)).length := by
  have cut := congrArg List.length (Text.ofLines_take_append line (later.take more) n)
  rw [List.take_take, Nat.min_eq_left (Nat.le_of_lt lt), List.length_append] at cut
  have ne : (later.take more).drop n ≠ [] := by
    rw [← List.length_pos_iff, List.length_drop, List.length_take]
    omega
  obtain ⟨next, others, same⟩ := List.exists_cons_of_ne_nil ne
  rw [same, Text.length_afterLine_cons] at cut
  omega

/-- Where the line behind an opening line is not tried, the fence that is found first begins behind the
opening line or takes more than the two. -/
theorem head?_spansFrom_ne (opening line : Text) (later : List Text) (offset : Nat) :
    ((fenceLines 1 opening).spansFrom offset (line :: later)).head? ≠
      some (offset, offset + (Text.ofLines (line :: later.take 1)).length) := by
  intro first
  rw [LineReader.spansFrom, LineReader.allFrom] at first
  cases read : fenceLines 1 opening line later with
  | none =>
    rw [read] at first
    obtain ⟨s, mem, place⟩ := List.mem_map.1 (List.mem_of_head? first)
    obtain ⟨_, _, _, _, -, start, -⟩ := LineReader.exists_line_of_mem_allFrom mem
    have begins : s.start = offset := congrArg Prod.fst place
    omega
  | some form =>
    obtain ⟨between, more⟩ := form
    rw [read] at first
    obtain ⟨-, lt, -, -, le⟩ := exists_of_fenceLines read
    have longer := length_ofLines_take_lt line lt le
    simp only [List.map_cons, List.head?_cons, Option.some.injEq, Prod.mk.injEq] at first
    omega

/-- Both ways of looking for closing lines find the same fences exactly if no fence is empty. -/
theorem spansFrom_eq_iff (opening : Text) (offset : Nat) (lines : List Text) :
    (fenceLines 1 opening).spansFrom offset lines = (fenceLines 0 opening).spansFrom offset lines ↔
      [] ∉ (fenceLines 0 opening).found lines := by
  simp only [LineReader.spansFrom]
  fun_induction (fenceLines 0 opening).allFrom offset lines with
  | case1 => simp [LineReader.allFrom]
  | case2 offset line later unread ih =>
    rcases fenceLines_cases opening line later with ⟨same, -⟩ | read
    · rw [LineReader.found_of_none unread, LineReader.allFrom, same, unread]
      exact ih
    · rw [unread] at read
      cases read
  | case3 offset line later between more read stop ih =>
    rcases fenceLines_cases opening line later with ⟨same, filled⟩ | empty
    · have ne : [] ≠ between := by
        rintro rfl
        exact filled more read
      rw [LineReader.found_of_some read, List.mem_cons, not_or, LineReader.allFrom, same, read,
        List.map_cons, List.map_cons, List.cons.injEq, ih]
      simp [ne, stop]
    · rw [read] at empty
      cases empty
      rw [LineReader.found_of_some read]
      refine iff_of_false (fun alike => ?_) (by simp)
      exact head?_spansFrom_ne opening line later offset (congrArg List.head? alike)

theorem unwrapLines_eq (opening : Text) {lines : List Text}
    (filled : [] ∉ (fenceLines 0 opening).found lines) :
    unwrapLines 1 opening lines = unwrapLines 0 opening lines := by
  fun_induction unwrapLines 0 opening lines with
  | case1 => rw [unwrapLines]
  | case2 line later unread ih =>
    rw [LineReader.found_of_none unread] at filled
    rcases fenceLines_cases opening line later with ⟨same, -⟩ | read
    · rw [unwrapLines, same, unread]
      exact congrArg (line :: ·) (ih filled)
    · rw [unread] at read
      cases read
  | case3 line later between more read ih =>
    rw [LineReader.found_of_some read, List.mem_cons, not_or] at filled
    rcases fenceLines_cases opening line later with ⟨same, -⟩ | empty
    · rw [unwrapLines, same, read]
      exact congrArg (between ++ ·) (ih filled.2)
    · rw [read] at empty
      cases empty
      exact absurd rfl filled.1

end Empty

theorem spans_fenced (free : '\n' ∉ language) (text : Text) :
    ((Search.all (fenced language) text).map fun s => (s.start, s.stop)) =
      (fenceLines 1 (fence ++ language)).spansFrom 0 (Text.lines text) := by
  rw [(fenced_reads free).all_eq, LineReader.allFrom_map, List.map_map]
  rfl

/-- The fences of a language in a text are those of its lines, each with the first closing line behind
its opening line, and taking them off leaves the lines between and all other lines. -/
structure UnwrapsAlike (language text : Text) : Prop where
  places : ((Search.all (fenced language) text).map fun s => (s.start, s.stop)) =
    (fenceLines 0 (fence ++ language)).spansFrom 0 (Text.lines text)
  unwrapped : unwrap (.list [.text language]) text =
    .ok (Text.ofLines (unwrapLines 0 (fence ++ language) (Text.lines text)))

/-- Fences come off line by line, where the line directly behind an opening one is not tried as a
closing line. So each opening line goes together with the first closing line behind it exactly if
no closing line stands directly behind the opening line of a fence. -/
theorem unwrapsAlike_iff (free : '\n' ∉ language) (text : Text) :
    unwrap (.list [.text language]) text =
        .ok (Text.ofLines (unwrapLines 1 (fence ++ language) (Text.lines text))) ∧
      (UnwrapsAlike language text ↔
        [] ∉ (fenceLines 0 (fence ++ language)).found (Text.lines text)) := by
  have unwrapped : unwrap (.list [.text language]) text =
      .ok (Text.ofLines (unwrapLines 1 (fence ++ language) (Text.lines text))) := by
    rw [unwrap_singleton, unwrapFences_eq free]
  refine ⟨unwrapped, ?_⟩
  rw [← spansFrom_eq_iff _ 0, ← spans_fenced free]
  refine ⟨UnwrapsAlike.places, fun places => ⟨places, ?_⟩⟩
  rw [spans_fenced free, spansFrom_eq_iff] at places
  rw [unwrapped, unwrapLines_eq _ places]

/-- Fences with lines in them, one with an opening line in it, and fences of another language. -/
theorem unwrapsAlike_of_filled :
    let language : Text := "html"
    let text : Text := "```html\n\n```\n```html\n```html\n```\n```python\nx\n```\n```html"
    '\n' ∉ language ∧ UnwrapsAlike language text ∧
      unwrap (.list [.text language]) text = .ok "\n```html\n```python\nx\n```\n```html" := by
  intro language text
  have free : '\n' ∉ language := by decide
  have alike : UnwrapsAlike language text := (unwrapsAlike_iff free text).2.2 (by decide +kernel)
  exact ⟨free, alike, alike.unwrapped.trans (congrArg Except.ok (by decide +kernel))⟩

/-- The opening line of an empty fence goes together with the closing line of the next one, which is
left open. -/
theorem not_unwrapsAlike :
    let text : Text := "```html\n```\n```python\nx\n```"
    unwrap (.list [.text "html"]) text = .ok "```\n```python\nx" ∧
      Text.ofLines (unwrapLines 0 (fence ++ ("html" : Text)) (Text.lines text)) =
        "```python\nx\n```" ∧ ¬ UnwrapsAlike "html" text := by
  intro text
  have written : unwrap (.list [.text "html"]) text = .ok "```\n```python\nx" := by
    rw [unwrap_singleton, unwrapFences_eq (by decide)]
    exact congrArg Except.ok (by decide +kernel)
  refine ⟨written, by decide +kernel, fun alike => ?_⟩
  have same := Except.ok.inj (alike.unwrapped.symm.trans written)
  exact absurd same (by decide +kernel)

end Cleanup
end PageDirectives
