import PageDirectives.Directive.Leftover
import PageDirectives.Proofs.Directive.LineScan
import PageDirectives.Proofs.Text.LineClearing
/-!
Marked lines: those that start as a directive does. Scanning, and taking away what is left over, heed
marked lines only, so a text without them can stand anywhere without being read as a directive. Once
the leftovers are taken away no line shows a name any more.
-/
namespace PageDirectives.Directive

/-- Whether a line starts with the mark of a directive. -/
def isMarked (line : Text) : Bool := Text.startsWith line mark

/-- A text none of whose lines starts with the mark of a directive. -/
abbrev Quiet (text : Text) : Prop := LineReader.Lacks isMarked text

theorem quiet_nil : Quiet [] := LineReader.lacks_nil rfl

theorem quiet_ofLines {lines : List Text} (ls : Text.AreLines lines)
    (unmarked : ∀ line ∈ lines, isMarked line = false) : Quiet (Text.ofLines lines) := by
  by_cases h : lines = []
  · rw [h]
    exact quiet_nil
  · rwa [Quiet, LineReader.Lacks, Text.lines_ofLines ls h]

theorem isMarked_mark_append (rest : Text) : isMarked (mark ++ rest) = true := by
  rw [isMarked, Text.startsWith, Text.after?_append]
  rfl

theorem after?_of_not_marked {line : Text} (h : isMarked line = false) (name : Text) :
    Text.after? (mark ++ name) line = none := by
  cases ha : Text.after? (mark ++ name) line with
  | none => rfl
  | some rest =>
    rw [Text.after?_eq_some ha, List.append_assoc, isMarked_mark_append] at h
    simp at h

theorem closes_of_not_marked {line : Text} (h : isMarked line = false) : closes line = false := by
  rw [closes, after?_of_not_marked h]

theorem isMarked_of_closes {line : Text} (h : closes line = true) : isMarked line = true := by
  cases hm : isMarked line with
  | true => rfl
  | false => simp [closes_of_not_marked hm] at h

theorem blockLines_eq_none_iff {name line : Text} {page : Entries} {later : List Text} :
    blockLines name page line later = none ↔
      opening? name line = none ∨ later.findIdx? closes = none := by
  rw [blockLines]
  cases opening? name line with
  | none => simp
  | some args => cases later.findIdx? closes <;> simp

theorem inlineLine_eq_none_iff {name line : Text} (page : Entries) (later : List Text) :
    inlineLine name page line later = none ↔ inlineRest? name line = none := by
  rw [inlineLine]
  cases inlineRest? name line <;> simp

/-- Where a directive is found does not depend on the page. -/
theorem found_reader_page {name : Text} {page : Entries} (other : Entries) {form : Form}
    {lines : List Text} (clear : (reader name page form).found lines = []) :
    (reader name other form).found lines = [] := by
  refine LineReader.found_eq_nil_of_none (fun line later none => ?_) clear
  cases form with
  | inline =>
    exact (inlineLine_eq_none_iff other later).2 ((inlineLine_eq_none_iff page later).1 none)
  | block => exact blockLines_eq_none_iff.2 (blockLines_eq_none_iff.1 none)

theorem reader_heeds (name : Text) (page : Entries) (form : Form) :
    (reader name page form).Heeds isMarked where
  first line later h := by
    cases form with
    | inline => simp [reader, inlineLine, inlineRest?, after?_of_not_marked h]
    | block => simp [reader, blockLines, opening?, after?_of_not_marked h]
  behind line later later' sub h := by
    cases form with
    | inline => exact h
    | block =>
      exact blockLines_eq_none_iff.2 ((blockLines_eq_none_iff.1 h).imp_right fun none =>
        LineReader.findIdx?_eq_none_of_sublist (fun _ => isMarked_of_closes) sub none)

/-- The name that a line shows behind a mark at its start. -/
def shownName? (line : Text) : Option Text :=
  ((Text.after? mark line).map (·.takeWhile Text.isNameChar)).filter (· != [])

/-- Reads blocks of any name. -/
def leftoverBlockLines : LineReader Unit := fun line later => do
  let _ ← shownName? line
  let last ← later.findIdx? closes
  some ((), last + 1)

/-- Reads lines that show a name. -/
def leftoverLines : LineReader Unit := fun line _ => (shownName? line).map fun _ => ((), 0)

theorem shownName?_of_not_marked {line : Text} (h : isMarked line = false) :
    shownName? line = none := by
  have := after?_of_not_marked h []
  rw [List.append_nil] at this
  rw [shownName?, this]
  rfl

theorem leftoverLines_heeds : leftoverLines.Heeds isMarked where
  first line later h := by rw [leftoverLines, shownName?_of_not_marked h]; rfl
  behind _ _ _ _ h := h

theorem exists_of_shownName? {line name : Text} (h : shownName? line = some name) :
    ∃ rest, line = mark ++ name ++ rest := by
  rw [shownName?, Option.filter_eq_some_iff, Option.map_eq_some_iff] at h
  obtain ⟨⟨rest, ha, rfl⟩, -⟩ := h
  refine ⟨rest.dropWhile Text.isNameChar, ?_⟩
  rw [List.append_assoc, List.takeWhile_append_dropWhile]
  exact Text.after?_eq_some ha

theorem leftoverName_lines (line : Text) (later : List Text) :
    leftoverName true (line ++ Text.afterLine later) =
      (shownName? line).map fun name => (name, mark.length + name.length) := by
  have markFree : '\n' ∉ mark := by decide
  have feed : Text.isNameChar '\n' = false := by decide
  rw [leftoverName, shownName?, Text.after?_line markFree]
  cases Text.after? mark line with
  | none => rfl
  | some rest =>
    simp only [Bool.not_true, Bool.false_eq_true, if_false, Option.map_some, Option.bind_eq_bind,
      Option.bind_some, Text.takeWhile_line feed, Option.filter_some]
    by_cases h : rest.takeWhile Text.isNameChar = [] <;> simp [h]

theorem leftoverLine_reads : leftoverLine.Reads leftoverLines where
  insideLine _ := rfl
  emptyLine _ := rfl
  lineStart line later ls := by
    rw [leftoverLine, Text.firstLine_ofLines (Text.areLines_cons.1 ls).1, Text.ofLines_cons,
      leftoverName_lines, leftoverLines]
    cases shownName? line <;> simp [Text.ofLines_cons]

theorem leftoverBlock_reads : leftoverBlock.Reads leftoverBlockLines where
  insideLine _ := rfl
  emptyLine _ := rfl
  lineStart line later ls := by
    rw [leftoverBlock, leftoverBlockLines, Text.ofLines_cons, leftoverName_lines]
    cases h : shownName? line with
    | none => rfl
    | some name =>
      obtain ⟨rest, rfl⟩ := exists_of_shownName? h
      have restLines : Text.AreLines (rest :: later) := by
        rw [Text.areLines_cons, List.mem_append, not_or] at ls
        exact Text.areLines_cons.2 ⟨ls.1.2, ls.2⟩
      have behind : (mark ++ name ++ rest ++ Text.afterLine later).drop
          (mark.length + name.length) = rest ++ Text.afterLine later := by
        rw [← List.length_append, List.append_assoc (mark ++ name), List.drop_left]
      simp only [Option.map_some, Option.bind_eq_bind, Option.bind_some]
      rw [behind, blockTail?_lines closes restLines]
      cases later.findIdx? closes with
      | none => rfl
      | some last => simp [Text.ofLines_cons, Nat.add_assoc]

/-- Taking leftovers away, line by line: blocks first, then single lines. -/
theorem lines_stripLeftovers (text : Text) :
    Text.lines (stripLeftovers text) = leftoverLines.exchange (fun _ => [])
      (leftoverBlockLines.exchange (fun _ => []) (Text.lines text)) := by
  rw [stripLeftovers, leftoverLine_reads.lines_exchange, leftoverBlock_reads.lines_exchange]

theorem leftovers_eq_nil {text : Text} (h : leftoverLines.found (Text.lines text) = []) :
    leftovers text = [] := by
  have lines : Search.all leftoverLine text = [] := by
    rw [leftoverLine_reads.all_eq]
    exact List.map_eq_nil_iff.1 h
  have fewer : ∀ flag text, leftoverLine flag text = none → leftoverName flag text = none := by
    intro flag text none
    rw [leftoverLine] at none
    cases hn : leftoverName flag text with
    | none => rfl
    | some read => simp [hn] at none
  have names : Search.all leftoverName text = [] := Search.allFrom_eq_nil fewer lines
  rw [leftovers, names]
  rfl

theorem leftovers_of_quiet {text : Text} (quiet : Quiet text) : leftovers text = [] := by
  apply leftovers_eq_nil
  have none := leftoverLines_heeds.found_append quiet []
  rwa [List.append_nil, LineReader.found_nil] at none

theorem leftovers_stripLeftovers (text : Text) : leftovers (stripLeftovers text) = [] := by
  apply leftovers_eq_nil
  rw [lines_stripLeftovers]
  exact leftoverLines_heeds.found_exchange fun _ _ => quiet_nil

theorem filter_isMarked_stripLeftovers (text : Text) :
    ((Text.lines (stripLeftovers text)).filter isMarked).Sublist
      ((Text.lines text).filter isMarked) := by
  rw [lines_stripLeftovers]
  exact (LineReader.filter_exchange_sublist fun _ _ => quiet_nil).trans
    (LineReader.filter_exchange_sublist fun _ _ => quiet_nil)

end PageDirectives.Directive
