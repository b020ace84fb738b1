import Mathlib.Data.List.Basic
import Mathlib.Data.List.Induction
import PageDirectives.Proofs.Directive.Marked
/-!
The names that are left over, line by line: those that lines show at their start, the terminator
apart. Taking leftovers away changes a text if and only if some line shows a name, and that name may
be the terminator.
-/
namespace PageDirectives.Directive

theorem distinct_eq_eraseDups (names : List Text) : distinct names = names.eraseDups := by
  induction names using List.reverseRecOn with
  | nil => rfl
  | append_singleton names name ih =>
    have known : (distinct names).contains name = true ↔ name ∈ names := by
      rw [List.contains_iff_mem, ih, List.mem_eraseDups]
    rw [distinct, List.foldl_append, List.foldl_cons, List.foldl_nil, ← distinct,
      List.eraseDups_append, ← ih]
    by_cases h : name ∈ names
    · rw [if_pos (known.2 h)]
      simp [List.removeAll, h]
    · rw [if_neg (mt known.1 h)]
      simp [List.removeAll, h, List.eraseDups_cons]

theorem leftoverName_feed (flag : Bool) (text : Text) :
    leftoverName flag ('\n' :: text) = none := by
  cases flag <;> rfl

/-- The name at the front of a line that begins at an offset. -/
def shownAt (offset : Nat) (line : Text) : Option (Located Text) :=
  (shownName? line).map fun name => ⟨offset, offset + (mark.length + name.length), name⟩

/-- A search for names goes on behind each of them to the end of its line. -/
theorem allFrom_leftoverName_line (offset : Nat) {line : Text} (free : '\n' ∉ line)
    (later : List Text) :
    Search.allFrom leftoverName offset true (line ++ Text.afterLine later) =
      (shownAt offset line).toList ++
        Search.allFrom leftoverName (offset + line.length) (line == []) (Text.afterLine later) := by
  have inside : ∀ text, leftoverName false text = none := fun _ => rfl
  cases line with
  | nil => rfl
  | cons c line =>
    have hc := Text.beq_feed_of_notMem free
    have read := leftoverName_lines (c :: line) later
    rw [List.cons_append] at read ⊢
    rw [Search.allFrom, read, shownAt]
    cases shown : shownName? (c :: line) with
    | none =>
      simp only [Option.map_none, hc]
      rw [Search.allFrom_insideLine inside _ fun m => free (List.mem_cons_of_mem c m)]
      rw [List.length_cons, Nat.add_assoc, Nat.add_comm 1]
      rfl
    | some name =>
      obtain ⟨rest, same⟩ := exists_of_shownName? shown
      rw [List.append_assoc] at same
      obtain ⟨rfl, rfl⟩ : c = ':' ∧ line = ':' :: (name ++ rest) := List.cons.inj same
      simp only [List.mem_cons, List.mem_append, not_or] at free
      have size : mark.length + name.length - 1 = (':' :: name).length := by
        simp only [mark, List.length_cons, List.length_nil]
        omega
      have taken : (':' :: (name ++ rest) ++ Text.afterLine later).take (':' :: name).length =
          ':' :: name := by
        rw [← List.cons_append, List.append_assoc, List.take_left]
      have dropped : (':' :: (name ++ rest) ++ Text.afterLine later).drop (':' :: name).length =
          rest ++ Text.afterLine later := by
        rw [← List.cons_append, List.append_assoc, List.drop_left]
      -- no line feed is taken with the name, so the search goes on inside the line
      have ends : Search.lineStartAfter (':' :: ':' :: name) = false :=
        Search.lineStartAfter_of_free (by simp [free])
      simp only [Option.map_some, size, taken, dropped, ends]
      rw [Search.allFrom_insideLine inside _ free.2.2.2]
      have stop : offset + 1 + (':' :: name).length = offset + (mark.length + name.length) := by
        simp only [mark, List.length_cons, List.length_nil]
        omega
      have behind : offset + (mark.length + name.length) + rest.length =
          offset + (':' :: ':' :: (name ++ rest)).length := by
        simp only [mark, List.length_cons, List.length_nil, List.length_append]
        omega
      rw [stop, behind]
      rfl

theorem allFrom_leftoverName_feed (offset : Nat) (flag : Bool) (line : Text) (later : List Text) :
    Search.allFrom leftoverName offset flag (Text.afterLine (line :: later)) =
      Search.allFrom leftoverName (offset + 1) true (Text.ofLines (line :: later)) := by
  rw [Text.afterLine_cons, Search.allFrom, leftoverName_feed]
  rfl

/-- A name that a line shows is found where the line stands. -/
theorem mem_allFrom_leftoverName (offset : Nat) {before later : List Text} {line name : Text}
    (ls : Text.AreLines (before ++ line :: later)) (shown : shownName? line = some name) :
    ⟨offset + (Text.beforeLine before).length,
        offset + (Text.beforeLine before).length + (mark.length + name.length), name⟩ ∈
      Search.allFrom leftoverName offset true (Text.ofLines (before ++ line :: later)) := by
  induction before generalizing offset with
  | nil =>
    rw [List.nil_append, Text.ofLines_cons,
      allFrom_leftoverName_line offset (Text.areLines_cons.1 ls).1, shownAt, shown]
    exact List.mem_append_left _ List.mem_cons_self
  | cons first before ih =>
    obtain ⟨free, others⟩ := Text.areLines_cons.1 ls
    have found := ih (offset + first.length + 1) others
    have shift : offset + first.length + 1 + (Text.beforeLine before).length =
        offset + (Text.beforeLine (first :: before)).length := by
      rw [Text.beforeLine_cons, List.length_append, List.length_cons]
      omega
    rw [shift] at found
    obtain ⟨next, rest, same⟩ := List.exists_cons_of_ne_nil
      (List.append_ne_nil_of_right_ne_nil before (List.cons_ne_nil line later))
    rw [List.cons_append, Text.ofLines_cons, allFrom_leftoverName_line offset free, same,
      allFrom_leftoverName_feed, ← same]
    exact List.mem_append_right _ found

theorem found_leftoverName (offset : Nat) {lines : List Text} (ls : Text.AreLines lines)
    (ne : lines ≠ []) :
    (Search.allFrom leftoverName offset true (Text.ofLines lines)).map (·.found) =
      lines.filterMap shownName? := by
  induction lines generalizing offset with
  | nil => exact absurd rfl ne
  | cons line later ih =>
    obtain ⟨free, behind⟩ := Text.areLines_cons.1 ls
    have others : (Search.allFrom leftoverName (offset + line.length) (line == [])
        (Text.afterLine later)).map (·.found) = later.filterMap shownName? := by
      cases later with
      | nil => simp [Search.allFrom]
      | cons next later =>
        rw [allFrom_leftoverName_feed]
        exact ih _ behind (List.cons_ne_nil next later)
    rw [Text.ofLines_cons, allFrom_leftoverName_line offset free, List.map_append, others,
      List.filterMap_cons, shownAt]
    cases shownName? line <;> rfl

/-- The names that are left over are those that lines show, each at its first line. -/
theorem leftovers_eq (text : Text) :
    leftovers text =
      (((Text.lines text).filterMap shownName?).filter (!isReserved ·)).eraseDups := by
  have found := found_leftoverName 0 (Text.areLines_lines text) (Text.lines_ne_nil text)
  rw [Text.ofLines_lines] at found
  rw [leftovers, distinct_eq_eraseDups, Search.all, found]

/-- A line by itself leaves over the name that it shows, unless that is the terminator. -/
theorem leftovers_line {line : Text} (free : '\n' ∉ line) :
    leftovers line = (shownName? line).toList.filter (!isReserved ·) := by
  rw [leftovers_eq, Text.lines_of_notMem free]
  cases shown : shownName? line with
  | none => simp [shown]
  | some name => cases reserved : isReserved name <;> simp [shown, reserved, List.eraseDups_cons]

/-- What is left over in a text is what its lines leave over. -/
theorem leftovers_eq_flatMap (text : Text) :
    leftovers text = ((Text.lines text).flatMap leftovers).eraseDups := by
  have each : (Text.lines text).flatMap leftovers =
      (Text.lines text).flatMap fun line => (shownName? line).toList.filter (!isReserved ·) :=
    List.flatMap_congr fun line hl => leftovers_line (Text.areLines_lines text line hl)
  rw [leftovers_eq, each, ← List.filter_flatMap, List.filterMap_eq_flatMap_toList]

/-- A name is left over if a line shows it and it is not the terminator. -/
theorem mem_leftovers {text name : Text} :
    name ∈ leftovers text ↔
      (∃ line ∈ Text.lines text, shownName? line = some name) ∧ isReserved name = false := by
  rw [leftovers_eq, List.mem_eraseDups, List.mem_filter, List.mem_filterMap, Bool.not_eq_true']

theorem stripLeftovers_eq_self_iff {text : Text} :
    stripLeftovers text = text ↔ ∀ line ∈ Text.lines text, shownName? line = none := by
  have single (lines : List Text) :
      leftoverLines.found lines = [] ↔ ∀ line ∈ lines, shownName? line = none := by
    induction lines with
    | nil => simp
    | cons line later ih =>
      rw [LineReader.found_cons_eq_nil_iff, ih, List.forall_mem_cons, leftoverLines,
        Option.map_eq_none_iff]
  constructor
  · intro same
    rw [← single, ← same, lines_stripLeftovers]
    exact leftoverLines_heeds.found_exchange fun _ _ => quiet_nil
  · intro bare
    have clear := (single _).2 bare
    have clearBlocks : leftoverBlockLines.found (Text.lines text) = [] := by
      refine LineReader.found_eq_nil_of_none (fun line later none => ?_) clear
      rw [leftoverBlockLines, Option.map_eq_none_iff.1 none]
      rfl
    have lines := lines_stripLeftovers text
    rw [LineReader.exchange_of_found_eq_nil clearBlocks,
      LineReader.exchange_of_found_eq_nil clear] at lines
    rw [← Text.ofLines_lines (stripLeftovers text), lines, Text.ofLines_lines]

end PageDirectives.Directive
