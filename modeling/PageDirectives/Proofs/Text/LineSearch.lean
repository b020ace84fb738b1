import PageDirectives.Proofs.Text.Lines
import PageDirectives.Proofs.Text.Search
/-!
Searching line by line. A reader of lines looks at one line and those behind it and takes whole
lines or nothing. A recogniser that agrees with a reader at line starts, and reads nothing inside a
line, finds and exchanges in a text what the reader finds and exchanges in its lines.
-/
namespace PageDirectives

/-- Reads a form at a line, given the lines behind it: what it says and how many of the lines behind
it belongs to it. -/
abbrev LineReader (α : Type) := (line : Text) → (later : List Text) → Option (α × Nat)

namespace LineReader

variable {α : Type}

/-- All forms in the lines of a text that begins at an offset, from top to bottom. The search goes on
at the line behind a form. -/
def allFrom (R : LineReader α) (offset : Nat) : List Text → List (Located α)
  | [] => []
  | line :: later =>
    match R line later with
    | none => allFrom R (offset + line.length + 1) later
    | some (found, more) =>
      let stop := offset + (Text.ofLines (line :: later.take more)).length
      ⟨offset, stop, found⟩ :: allFrom R (stop + 1) (later.drop more)
termination_by lines => lines.length
decreasing_by all_goals simp; try omega

def found (R : LineReader α) (lines : List Text) : List α := (allFrom R 0 lines).map (·.found)

/-- Lines with every form in them exchanged for the lines of a text. -/
def exchange (R : LineReader α) (image : α → Text) : List Text → List Text
  | [] => []
  | line :: later =>
    match R line later with
    | none => line :: exchange R image later
    | some (found, more) => Text.lines (image found) ++ exchange R image (later.drop more)
termination_by lines => lines.length
decreasing_by all_goals simp; try omega

variable {R : LineReader α} {image : α → Text}

theorem map_found_allFrom (offset : Nat) (lines : List Text) :
    (allFrom R offset lines).map (·.found) = found R lines := by
  suffices h : ∀ n, (allFrom R offset lines).map (·.found) = (allFrom R n lines).map (·.found) from
    h 0
  intro n
  fun_induction allFrom R offset lines generalizing n with
  | case1 => simp [allFrom]
  | case2 offset line later hR ih => rw [allFrom, hR, ih]
  | case3 offset line later a more hR stop ih =>
    rw [allFrom, hR, List.map_cons, List.map_cons, ih]

@[simp] theorem found_nil : found R [] = [] := by simp [found, allFrom]

theorem found_of_none {line : Text} {later : List Text} (h : R line later = none) :
    found R (line :: later) = found R later := by
  rw [found, allFrom, h, map_found_allFrom]

theorem found_of_some {line : Text} {later : List Text} {a : α} {more : Nat}
    (h : R line later = some (a, more)) :
    found R (line :: later) = a :: found R (later.drop more) := by
  rw [found, allFrom, h, List.map_cons, map_found_allFrom]

/-- What is found is read at a line, from it and the lines behind it. -/
theorem exists_read_of_mem_found {lines : List Text} {a : α} (h : a ∈ found R lines) :
    ∃ line later more, (line :: later) <:+ lines ∧ R line later = some (a, more) := by
  fun_induction allFrom R 0 lines with
  | case1 => simp at h
  | case2 offset line later hR ih =>
    rw [found_of_none hR] at h
    obtain ⟨line', later', more, suffix, read⟩ := ih h
    exact ⟨line', later', more, suffix.trans (List.suffix_cons line later), read⟩
  | case3 offset line later b more hR stop ih =>
    rw [found_of_some hR] at h
    rcases List.mem_cons.1 h with rfl | h
    · exact ⟨line, later, more, List.suffix_refl _, hR⟩
    · obtain ⟨line', later', more', suffix, read⟩ := ih h
      have behind := (List.drop_suffix more later).trans (List.suffix_cons line later)
      exact ⟨line', later', more', suffix.trans behind, read⟩

@[simp] theorem exchange_nil : exchange R image [] = [] := by rw [exchange]

theorem exchange_of_none {line : Text} {later : List Text} (h : R line later = none) :
    exchange R image (line :: later) = line :: exchange R image later := by
  rw [exchange, h]

theorem exchange_of_some {line : Text} {later : List Text} {a : α} {more : Nat}
    (h : R line later = some (a, more)) :
    exchange R image (line :: later) =
      Text.lines (image a) ++ exchange R image (later.drop more) := by
  rw [exchange, h]

theorem exchange_ne_nil (R : LineReader α) (image : α → Text) {lines : List Text}
    (ne : lines ≠ []) : exchange R image lines ≠ [] := by
  fun_cases exchange R image lines with
  | case1 => exact ne
  | case2 => simp
  | case3 => simp [Text.lines_ne_nil]

theorem areLines_exchange {lines : List Text} (h : Text.AreLines lines) :
    Text.AreLines (exchange R image lines) := by
  fun_induction exchange R image lines with
  | case1 => exact h
  | case2 line later hR ih =>
    rw [Text.areLines_cons] at h ⊢
    exact ⟨h.1, ih h.2⟩
  | case3 line later a more hR ih =>
    rw [Text.areLines_cons] at h
    exact Text.areLines_append.2 ⟨Text.areLines_lines _, ih (h.2.drop more)⟩

end LineReader

namespace Search

variable {α : Type} {r : Recogniser α} {image : α → Text}

/-- No line begins behind a piece of a line. -/
theorem lineStartAfter_of_free {piece : Text} (free : '\n' ∉ piece) :
    lineStartAfter piece = false := by
  rw [lineStartAfter, beq_eq_false_iff_ne]
  exact fun last => free (List.mem_of_getLast? last)

/-- A search inside a line goes on to the end of the line. -/
theorem allFrom_insideLine (inside : ∀ text, r false text = none) (offset : Nat) {line : Text}
    (free : '\n' ∉ line) (rest : Text) :
    allFrom r offset false (line ++ rest) =
      allFrom r (offset + line.length) false rest := by
  induction line generalizing offset with
  | nil => rfl
  | cons c line ih =>
    have hc := Text.beq_feed_of_notMem free
    rw [List.cons_append, allFrom, inside]
    simp only [hc]
    rw [ih _ fun m => free (List.mem_cons_of_mem c m), List.length_cons]
    congr 1
    omega

theorem exchangeFrom_insideLine (inside : ∀ text, r false text = none) {line : Text}
    (free : '\n' ∉ line) (rest : Text) :
    exchangeFrom r image false (line ++ rest) =
      line ++ exchangeFrom r image false rest := by
  induction line with
  | nil => rfl
  | cons c line ih =>
    have hc := Text.beq_feed_of_notMem free
    rw [List.cons_append, exchangeFrom, inside]
    simp only [hc]
    rw [ih fun m => free (List.mem_cons_of_mem c m), List.cons_append]

/-- A line at which nothing is read is kept. -/
theorem exchangeFrom_line (inside : ∀ text, r false text = none) {line : Text}
    (free : '\n' ∉ line) {rest : Text} (unread : r true (line ++ rest) = none) :
    exchangeFrom r image true (line ++ rest) =
      line ++ exchangeFrom r image (line == []) rest := by
  cases line with
  | nil => rfl
  | cons c line =>
    rw [List.cons_append] at unread ⊢
    rw [exchangeFrom, unread]
    simp only [Text.beq_feed_of_notMem free]
    rw [exchangeFrom_insideLine inside fun m => free (List.mem_cons_of_mem c m)]
    rfl

end Search

/-- A recogniser that reads whole lines as a reader of lines does. -/
structure Recogniser.Reads {α : Type} (r : Recogniser α) (R : LineReader α) : Prop where
  insideLine : ∀ text, r false text = none
  emptyLine : ∀ later, R [] later = none
  lineStart : ∀ line later, Text.AreLines (line :: later) →
    r true (Text.ofLines (line :: later)) =
      (R line later).map fun (a, more) => (a, (Text.ofLines (line :: later.take more)).length)

namespace Recogniser.Reads

variable {α : Type} {r : Recogniser α} {R : LineReader α} {image : α → Text}

theorem beforeFeed (h : r.Reads R) (flag : Bool) {later : List Text} (ne : later ≠ [])
    (ls : Text.AreLines later) : r flag ('\n' :: Text.ofLines later) = none := by
  cases flag with
  | false => exact h.insideLine _
  | true =>
    obtain ⟨line, later, rfl⟩ := List.exists_cons_of_ne_nil ne
    have read := h.lineStart [] (line :: later) (by simpa using ls)
    rw [Text.ofLines_cons, List.nil_append, Text.afterLine_cons, h.emptyLine] at read
    exact read

theorem allFrom_afterLine (h : r.Reads R) (offset : Nat) (flag : Bool) {later : List Text}
    (ls : Text.AreLines later)
    (next : later ≠ [] →
      Search.allFrom r (offset + 1) true (Text.ofLines later) = R.allFrom (offset + 1) later) :
    Search.allFrom r offset flag (Text.afterLine later) = R.allFrom (offset + 1) later := by
  cases later with
  | nil => simp [Search.allFrom, LineReader.allFrom]
  | cons line later =>
    rw [Text.afterLine_cons, Search.allFrom, h.beforeFeed flag (by simp) ls]
    exact next (by simp)

theorem exchangeFrom_afterLine (h : r.Reads R) (flag : Bool) {later : List Text}
    (ls : Text.AreLines later)
    (next : later ≠ [] → Search.exchangeFrom r image true (Text.ofLines later) =
      Text.ofLines (R.exchange image later)) :
    Search.exchangeFrom r image flag (Text.afterLine later) =
      Text.afterLine (R.exchange image later) := by
  cases later with
  | nil => simp [Search.exchangeFrom]
  | cons line later =>
    rw [Text.afterLine_cons, Search.exchangeFrom, h.beforeFeed flag (by simp) ls]
    obtain ⟨first, others, same⟩ := List.exists_cons_of_ne_nil
      (R.exchange_ne_nil image (List.cons_ne_nil line later))
    rw [same, Text.afterLine_cons, ← same]
    exact congrArg _ (next (by simp))

theorem exists_of_read (h : r.Reads R) {line : Text} {later : List Text} {a : α} {more : Nat}
    (hR : R line later = some (a, more)) :
    ∃ c rest, Text.ofLines (line :: later) = c :: rest ∧
      rest.drop ((Text.ofLines (line :: later.take more)).length - 1) =
        Text.afterLine (later.drop more) ∧
      0 < (Text.ofLines (line :: later.take more)).length := by
  cases line with
  | nil => simp [h.emptyLine] at hR
  | cons c line =>
    have whole := (Text.ofLines_take_append (c :: line) later more).symm
    rw [Text.ofLines_cons _ (later.take more)] at whole ⊢
    refine ⟨c, line ++ Text.afterLine later, by rw [Text.ofLines_cons]; rfl, ?_, by simp⟩
    rw [Text.ofLines_cons, List.append_assoc, List.append_cancel_left_eq] at whole
    rw [whole, List.cons_append, List.length_cons, Nat.add_sub_cancel, ← List.append_assoc,
      List.drop_left]

/-- Searching a text and searching its lines find the same forms at the same places. -/
theorem allFrom_ofLines (h : r.Reads R) (offset : Nat) {lines : List Text}
    (ls : Text.AreLines lines) (ne : lines ≠ []) :
    Search.allFrom r offset true (Text.ofLines lines) = R.allFrom offset lines := by
  fun_induction R.allFrom offset lines with
  | case1 => exact absurd rfl ne
  | case2 offset line later hR ih =>
    have behind := (Text.areLines_cons.1 ls).2
    have read := h.lineStart line later ls
    rw [hR, Option.map_none] at read
    rw [Text.ofLines_cons] at read ⊢
    -- the search is told of a line start at the first character, which an empty line does not have
    cases line with
    | nil => exact h.allFrom_afterLine offset true behind (ih behind)
    | cons c line =>
      have free := (Text.areLines_cons.1 ls).1
      have hc := Text.beq_feed_of_notMem free
      have shift : offset + (c :: line).length = offset + 1 + line.length := by
        rw [List.length_cons]
        omega
      rw [List.cons_append] at read ⊢
      rw [Search.allFrom, read]
      simp only [hc]
      rw [Search.allFrom_insideLine h.insideLine _ fun m => free (List.mem_cons_of_mem c m),
        ← shift]
      exact h.allFrom_afterLine _ false behind (ih behind)
  | case3 offset line later a more hR stop ih =>
    have behind := (Text.areLines_cons.1 ls).2.drop more
    have read := h.lineStart line later ls
    rw [hR, Option.map_some] at read
    obtain ⟨c, rest, same, dropped, pos⟩ := h.exists_of_read hR
    have shift : offset + 1 + ((Text.ofLines (line :: later.take more)).length - 1) = stop := by
      omega
    rw [same] at read ⊢
    rw [Search.allFrom, read]
    simp only [dropped, shift]
    rw [h.allFrom_afterLine stop _ behind (ih behind)]

/-- Exchanging the forms in a text and in its lines give the same text. -/
theorem exchangeFrom_ofLines (h : r.Reads R) {lines : List Text} (ls : Text.AreLines lines)
    (ne : lines ≠ []) :
    Search.exchangeFrom r image true (Text.ofLines lines) =
      Text.ofLines (R.exchange image lines) := by
  fun_induction R.exchange image lines with
  | case1 => exact absurd rfl ne
  | case2 line later hR ih =>
    have behind := (Text.areLines_cons.1 ls).2
    have read := h.lineStart line later ls
    rw [hR, Option.map_none] at read
    rw [Text.ofLines_cons] at read ⊢
    rw [Text.ofLines_cons]
    cases line with
    | nil => exact h.exchangeFrom_afterLine true behind (ih behind)
    | cons c line =>
      have free := (Text.areLines_cons.1 ls).1
      have hc := Text.beq_feed_of_notMem free
      rw [List.cons_append] at read ⊢
      rw [Search.exchangeFrom, read]
      simp only [hc]
      rw [Search.exchangeFrom_insideLine h.insideLine fun m => free (List.mem_cons_of_mem c m),
        h.exchangeFrom_afterLine false behind (ih behind), List.cons_append]
  | case3 line later a more hR ih =>
    have behind := (Text.areLines_cons.1 ls).2.drop more
    have read := h.lineStart line later ls
    rw [hR, Option.map_some] at read
    obtain ⟨c, rest, same, dropped, -⟩ := h.exists_of_read hR
    rw [same] at read ⊢
    rw [Search.exchangeFrom, read]
    simp only [dropped]
    rw [h.exchangeFrom_afterLine _ behind (ih behind), Text.ofLines_lines_append]

theorem all_eq (h : r.Reads R) (text : Text) :
    Search.all r text = R.allFrom 0 (Text.lines text) := by
  rw [← h.allFrom_ofLines 0 (Text.areLines_lines text) (Text.lines_ne_nil text),
    Text.ofLines_lines]
  rfl

theorem exchange_eq (h : r.Reads R) (image : α → Text) (text : Text) :
    Search.exchange r image text = Text.ofLines (R.exchange image (Text.lines text)) := by
  rw [← h.exchangeFrom_ofLines (Text.areLines_lines text) (Text.lines_ne_nil text),
    Text.ofLines_lines]
  rfl

theorem lines_exchange (h : r.Reads R) (image : α → Text) (text : Text) :
    Text.lines (Search.exchange r image text) = R.exchange image (Text.lines text) := by
  rw [h.exchange_eq, Text.lines_ofLines (LineReader.areLines_exchange (Text.areLines_lines text))
    (LineReader.exchange_ne_nil R image (Text.lines_ne_nil text))]

end Recogniser.Reads
end PageDirectives
