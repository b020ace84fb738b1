import PageDirectives.Text.Basic
/-!
Texts and their lines. Splitting a text at its line feeds and joining lines are inverse to each
other on lines that have no line feed. Behind its first line a text goes on with a line feed before
every further line, which is the form in which searches meet it. A line stands between two others
exactly if line feeds stand around it.
-/
namespace PageDirectives.Text

theorem splitOn_eq {α : Type} [DecidableEq α] (separator : α) (xs : List α) :
    splitOn separator xs = xs.splitOn separator := by
  induction xs with
  | nil => rfl
  | cons x xs ih =>
    rw [splitOn, List.splitOn_cons_eq_if_modifyHead, ← ih]
    by_cases h : x = separator
    · simp [h]
    · simp only [h, if_false, beq_iff_eq]
      cases hs : splitOn separator xs with
      | nil => exact absurd hs (splitOn_ne_nil separator xs)
      | cons piece pieces => rfl

theorem lines_eq (text : Text) : lines text = List.splitOn '\n' text := splitOn_eq '\n' text

theorem lines_ne_nil (text : Text) : lines text ≠ [] := splitOn_ne_nil '\n' text

@[simp] theorem lines_nil : lines [] = [[]] := rfl

theorem beq_feed_of_notMem {c : Char} {line : Text} (free : '\n' ∉ c :: line) :
    (c == '\n') = false := by
  rw [List.mem_cons, not_or] at free
  simpa using Ne.symm free.1

/-- Lines that a text can have: none of them holds a line feed. -/
def AreLines (ls : List Text) : Prop := ∀ l ∈ ls, '\n' ∉ l

@[simp] theorem areLines_nil : AreLines [] := by simp [AreLines]

@[simp] theorem areLines_cons {l : Text} {ls : List Text} :
    AreLines (l :: ls) ↔ '\n' ∉ l ∧ AreLines ls := by
  simp [AreLines]

@[simp] theorem areLines_append {ls ms : List Text} :
    AreLines (ls ++ ms) ↔ AreLines ls ∧ AreLines ms := by
  simp [AreLines, or_imp, forall_and]

theorem AreLines.drop {ls : List Text} (h : AreLines ls) (n : Nat) : AreLines (ls.drop n) :=
  fun l hl => h l (List.mem_of_mem_drop hl)

theorem AreLines.take {ls : List Text} (h : AreLines ls) (n : Nat) : AreLines (ls.take n) :=
  fun l hl => h l (List.mem_of_mem_take hl)

theorem ofLines_lines (text : Text) : ofLines (lines text) = text := by
  rw [lines_eq]
  exact List.intercalate_splitOn '\n'

theorem lines_ofLines {ls : List Text} (h : AreLines ls) (ne : ls ≠ []) :
    lines (ofLines ls) = ls := by
  rw [lines_eq]
  exact List.splitOn_intercalate '\n' h ne

theorem areLines_lines (text : Text) : AreLines (lines text) := by
  induction text with
  | nil => simp [lines, splitOn]
  | cons c text ih =>
    rw [lines, splitOn]
    by_cases h : c = '\n'
    · simp only [h, if_true, areLines_cons, List.not_mem_nil, not_false_eq_true, true_and]
      exact ih
    · simp only [h, if_false]
      rw [lines] at ih
      cases hs : splitOn '\n' text with
      | nil => simpa using Ne.symm h
      | cons piece pieces =>
        rw [hs, areLines_cons] at ih
        simpa [Ne.symm h] using ih

theorem exists_lines (text : Text) :
    ∃ line later, AreLines (line :: later) ∧ text = ofLines (line :: later) ∧
      lines text = line :: later := by
  obtain ⟨line, later, h⟩ := List.exists_cons_of_ne_nil (lines_ne_nil text)
  refine ⟨line, later, h ▸ areLines_lines text, ?_, h⟩
  rw [← h, ofLines_lines]

/-- What follows a first line: each further line behind a line feed. -/
def afterLine (later : List Text) : Text := later.flatMap ('\n' :: ·)

@[simp] theorem afterLine_nil : afterLine [] = [] := rfl

@[simp] theorem ofLines_nil : ofLines [] = [] := rfl

theorem ofLines_cons (line : Text) (later : List Text) :
    ofLines (line :: later) = line ++ afterLine later := by
  induction later generalizing line with
  | nil => simp [ofLines, join]
  | cons next later ih =>
    have := ih next
    simp_all [ofLines, join, afterLine]

theorem afterLine_cons (line : Text) (later : List Text) :
    afterLine (line :: later) = '\n' :: ofLines (line :: later) := by
  rw [ofLines_cons]
  rfl

theorem mem_ofLines {c : Char} (other : c ≠ '\n') {lines : List Text} :
    c ∈ ofLines lines ↔ ∃ line ∈ lines, c ∈ line := by
  induction lines with
  | nil => simp
  | cons line later ih =>
    have parts : (∃ l ∈ line :: later, c ∈ l) ↔ c ∈ line ∨ ∃ l ∈ later, c ∈ l := by simp
    rw [ofLines_cons, List.mem_append, parts, ← ih]
    cases later with
    | nil => simp
    | cons next later => simp [afterLine_cons, other]

theorem ofLines_cons_of_ne_nil (line : Text) {later : List Text} (ne : later ≠ []) :
    ofLines (line :: later) = line ++ '\n' :: ofLines later := by
  obtain ⟨next, others, rfl⟩ := List.exists_cons_of_ne_nil ne
  rw [ofLines_cons, afterLine_cons]

theorem length_ofLines_cons (line : Text) {later : List Text} (ne : later ≠ []) :
    (ofLines (line :: later)).length = line.length + 1 + (ofLines later).length := by
  rw [ofLines_cons_of_ne_nil line ne, List.length_append, List.length_cons]
  omega

/-- A run of characters ends in front of the first that does not belong to it. -/
theorem takeWhile_of_stop {p : Char → Bool} {front rest : Text} (inside : ∀ c ∈ front, p c = true)
    (stop : ∀ c ∈ rest.head?, p c = false) : (front ++ rest).takeWhile p = front := by
  rw [List.takeWhile_append_of_pos inside]
  cases rest with
  | nil => simp
  | cons c rest => simp [stop c rfl]

theorem notMem_takeWhile {p : Char → Bool} {c : Char} (stop : p c = false) (text : Text) :
    c ∉ text.takeWhile p := by
  intro mem
  have := List.all_eq_true.1 List.all_takeWhile c mem
  rw [stop] at this
  exact nomatch this

/-- A run of characters other than line feeds does not go beyond its line. -/
theorem takeWhile_line {p : Char → Bool} (feed : p '\n' = false) (line : Text)
    (later : List Text) : (line ++ afterLine later).takeWhile p = line.takeWhile p := by
  induction line with
  | nil => cases later <;> simp [afterLine_cons, feed]
  | cons c line ih => simp only [List.cons_append, List.takeWhile_cons, ih]

theorem afterLine_append (first second : List Text) :
    afterLine (first ++ second) = afterLine first ++ afterLine second := by
  simp [afterLine]

theorem ofLines_append {first : List Text} (ne : first ≠ []) (second : List Text) :
    ofLines (first ++ second) = ofLines first ++ afterLine second := by
  obtain ⟨line, later, rfl⟩ := List.exists_cons_of_ne_nil ne
  rw [List.cons_append, ofLines_cons, ofLines_cons, afterLine_append, List.append_assoc]

/-- Lines with a line feed behind each of them. -/
def beforeLine (lines : List Text) : Text := lines.flatMap (· ++ ['\n'])

theorem beforeLine_cons (line : Text) (lines : List Text) :
    beforeLine (line :: lines) = line ++ '\n' :: beforeLine lines := by
  simp [beforeLine]

theorem length_beforeLine (lines : List Text) :
    (beforeLine lines).length = (afterLine lines).length := by
  simp [beforeLine, afterLine, List.length_flatMap]

theorem beforeLine_eq {lines : List Text} (ne : lines ≠ []) :
    beforeLine lines = ofLines lines ++ ['\n'] := by
  induction lines with
  | nil => exact absurd rfl ne
  | cons line lines ih =>
    rw [beforeLine_cons, ofLines_cons]
    cases lines with
    | nil => simp [beforeLine]
    | cons next lines => rw [ih (by simp), afterLine_cons]; simp

theorem ofLines_append_right (front : List Text) {lines : List Text} (ne : lines ≠ []) :
    ofLines (front ++ lines) = beforeLine front ++ ofLines lines := by
  induction front with
  | nil => rfl
  | cons line front ih =>
    obtain ⟨first, others, same⟩ := List.exists_cons_of_ne_nil
      (List.append_ne_nil_of_right_ne_nil front ne)
    rw [List.cons_append, ofLines_cons, same, afterLine_cons, ← same, ih, beforeLine_cons,
      List.append_assoc, List.cons_append]

theorem beforeLine_append (first second : List Text) :
    beforeLine (first ++ second) = beforeLine first ++ beforeLine second := by
  simp [beforeLine]

theorem ofLines_take_append (line : Text) (later : List Text) (n : Nat) :
    ofLines (line :: later.take n) ++ afterLine (later.drop n) = ofLines (line :: later) := by
  rw [← ofLines_append (List.cons_ne_nil _ _), List.cons_append, List.take_append_drop]

theorem lines_of_notMem {line : Text} (free : '\n' ∉ line) : lines line = [line] := by
  have whole := lines_ofLines (areLines_cons.2 ⟨free, areLines_nil⟩) (List.cons_ne_nil line [])
  rwa [ofLines_cons, afterLine_nil, List.append_nil] at whole

/-- A text put in the place of whole lines brings in its own lines. -/
theorem ofLines_lines_append (text : Text) (later : List Text) :
    ofLines (lines text ++ later) = text ++ afterLine later := by
  rw [ofLines_append (lines_ne_nil text), ofLines_lines]

theorem ofLines_lines_between (before : List Text) (text : Text) (after : List Text) :
    ofLines (before ++ (lines text ++ after)) = beforeLine before ++ text ++ afterLine after := by
  rw [ofLines_append_right before (List.append_ne_nil_of_left_ne_nil (lines_ne_nil text) after),
    ofLines_lines_append, List.append_assoc]

theorem afterLine_lines (text : Text) : afterLine (lines text) = '\n' :: text := by
  obtain ⟨line, later, -, same, cut⟩ := exists_lines text
  rw [cut, afterLine_cons, ← same]

theorem beforeLine_lines (text : Text) : beforeLine (lines text) = text ++ ['\n'] := by
  rw [beforeLine_eq (lines_ne_nil text), ofLines_lines]

theorem lines_append_feed (front back : Text) :
    lines (front ++ '\n' :: back) = lines front ++ lines back := by
  have joined : front ++ '\n' :: back = ofLines (lines front ++ lines back) := by
    rw [ofLines_append (lines_ne_nil front), ofLines_lines, afterLine_lines]
  rw [joined, lines_ofLines (areLines_append.2 ⟨areLines_lines front, areLines_lines back⟩)
    (List.append_ne_nil_of_left_ne_nil (lines_ne_nil front) _)]

theorem afterLine_flatMap_lines (f : Text → Text) (ls : List Text) :
    afterLine (ls.flatMap fun l => lines (f l)) = afterLine (ls.map f) := by
  induction ls with
  | nil => rfl
  | cons l ls ih =>
    rw [List.flatMap_cons, afterLine_append, afterLine_lines, ih, List.map_cons, afterLine_cons,
      ofLines_cons, List.cons_append]

theorem flatMap_lines {ls : List Text} (h : AreLines ls) : ls.flatMap lines = ls := by
  induction ls with
  | nil => rfl
  | cons l ls ih =>
    obtain ⟨free, others⟩ := areLines_cons.1 h
    rw [List.flatMap_cons, lines_of_notMem free, ih others, List.singleton_append]

/-- Texts put in the places of lines make up the same text whether they are cut into lines or not. -/
theorem ofLines_flatMap_lines (f : Text → Text) (ls : List Text) :
    ofLines (ls.flatMap fun l => lines (f l)) = ofLines (ls.map f) := by
  cases ls with
  | nil => rfl
  | cons l ls =>
    rw [List.flatMap_cons, ofLines_lines_append, afterLine_flatMap_lines, List.map_cons,
      ofLines_cons]

/-- The lines of a text that stand between two others. -/
def innerLines (text : Text) : List Text := (lines text).tail.dropLast

theorem tail_lines_append_feed (front back : Text) :
    (lines (front ++ '\n' :: back)).tail = (lines front).tail ++ lines back := by
  rw [lines_append_feed, List.tail_append_of_ne_nil (lines_ne_nil front)]

theorem innerLines_append_feed {back : Text} (free : '\n' ∉ back) (front : Text) :
    innerLines (front ++ '\n' :: back) = (lines front).tail := by
  rw [innerLines, tail_lines_append_feed, lines_of_notMem free, List.dropLast_concat]

/-- Between line feeds stands an inner line. -/
theorem mem_innerLines_iff {line text : Text} (free : '\n' ∉ line) :
    line ∈ innerLines text ↔ '\n' :: line ++ ['\n'] <:+: text := by
  constructor
  · intro mem
    obtain ⟨above, below, cut⟩ := List.append_of_mem mem
    obtain ⟨first, later, -, whole, same⟩ := exists_lines text
    have ne : later ≠ [] := by
      rintro rfl
      simp [innerLines, same] at mem
    obtain ⟨inner, last, rfl⟩ := (List.eq_nil_or_concat later).resolve_left ne
    rw [List.concat_eq_append] at same whole
    rw [innerLines, same, List.tail_cons, List.dropLast_concat] at cut
    subst cut
    obtain ⟨next, others, same'⟩ := List.exists_cons_of_ne_nil
      (List.append_ne_nil_of_right_ne_nil below (List.cons_ne_nil last []))
    refine ⟨ofLines (first :: above), ofLines (below ++ [last]), ?_⟩
    have regrouped : first :: (above ++ line :: below ++ [last]) =
        (first :: above) ++ line :: (below ++ [last]) := by simp
    rw [whole, regrouped, ofLines_append (List.cons_ne_nil first above), afterLine_cons,
      ofLines_cons line, same', afterLine_cons]
    simp
  · rintro ⟨front, back, rfl⟩
    have regrouped : front ++ ('\n' :: line ++ ['\n']) ++ back =
        front ++ '\n' :: (line ++ '\n' :: back) := by simp
    rw [regrouped, innerLines, tail_lines_append_feed, lines_append_feed, lines_of_notMem free,
      ← List.append_assoc, List.dropLast_append_of_ne_nil (lines_ne_nil back)]
    simp

end PageDirectives.Text
