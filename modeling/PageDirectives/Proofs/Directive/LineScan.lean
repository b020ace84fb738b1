import PageDirectives.Directive.Scan
import PageDirectives.Proofs.Text.LineSearch
/-!
Directives read line by line. A line opens a block if its name is complete and some later line
closes it; the first such line does. An inline directive is one line with a blank behind its name
and at least one more character. Scanning a text finds exactly these, in document order and without
overlap, and every occurrence keeps the text it was found in.
-/
namespace PageDirectives

namespace Text

theorem after?_eq_some_iff {mark text rest : Text} :
    after? mark text = some rest ↔ text = mark ++ rest :=
  ⟨after?_eq_some, fun h => h ▸ after?_append mark rest⟩

theorem after?_line {mark : Text} (free : '\n' ∉ mark) (line : Text) (later : List Text) :
    after? mark (line ++ afterLine later) = (after? mark line).map (· ++ afterLine later) := by
  induction mark generalizing line with
  | nil => rfl
  | cons m mark ih =>
    simp only [List.mem_cons, not_or] at free
    cases line with
    | nil =>
      cases later with
      | nil => rfl
      | cons next later =>
        simp only [afterLine_cons, List.nil_append, after?, Ne.symm free.1, if_false,
          Option.map_none]
    | cons c line =>
      by_cases h : m = c
      · simp only [List.cons_append, after?, h, if_true]
        exact ih free.2 line
      · simp [after?, h]

theorem firstLine_append {line : Text} (free : '\n' ∉ line) (later : List Text) :
    firstLine (line ++ afterLine later) = line := by
  induction line with
  | nil => cases later <;> simp [firstLine, afterLine_cons]
  | cons c line ih =>
    have hc : (c != '\n') = true := by rw [bne, beq_feed_of_notMem free]; rfl
    have rest := ih fun m => free (List.mem_cons_of_mem c m)
    rw [firstLine] at rest ⊢
    rw [List.cons_append, List.takeWhile_cons, if_pos hc, rest]

theorem firstLine_ofLines {line : Text} (free : '\n' ∉ line) (later : List Text) :
    firstLine (ofLines (line :: later)) = line := by
  rw [ofLines_cons, firstLine_append free]

theorem trim_append_newline (text : Text) : trim (text ++ ['\n']) = trim text := by
  have blank : isBlank '\n' = true := by decide
  have ends (t : Text) : trimEnd (t ++ ['\n']) = trimEnd t := by simp [trimEnd, blank]
  rw [trim, trim, trimStart, trimStart, List.dropWhile_append]
  split
  · next h => simp [List.isEmpty_iff.1 h, blank]
  · rw [ends]

theorem trim_beforeLine (lines : List Text) :
    trim (beforeLine lines) = trim (ofLines lines) := by
  cases lines with
  | nil => rfl
  | cons line lines => rw [beforeLine_eq (by simp), trim_append_newline]

theorem cutAtLine?_insideLine (p : Text → Bool) {line : Text} (free : '\n' ∉ line)
    (rest : Text) :
    cutAtLine? p false (line ++ rest) =
      (cutAtLine? p false rest).map fun (before, behind) => (line ++ before, behind) := by
  induction line with
  | nil => simp
  | cons c line ih =>
    have hc := beq_feed_of_notMem free
    rw [List.cons_append, cutAtLine?]
    simp only [Bool.false_and, Bool.false_eq_true, if_false, hc]
    rw [ih fun m => free (List.mem_cons_of_mem c m), Option.map_map]
    rfl

theorem cutAtLine?_cons (p : Text → Bool) {line : Text} {later : List Text}
    (free : '\n' ∉ line) (h : p line = false) :
    cutAtLine? p true (ofLines (line :: later)) =
      (cutAtLine? p false (afterLine later)).map fun (before, behind) =>
        (line ++ before, behind) := by
  have first := firstLine_ofLines free later
  rw [ofLines_cons] at first ⊢
  cases line with
  | nil =>
    cases later with
    | nil => simp [cutAtLine?, h]
    | cons next later =>
      rw [afterLine_cons, List.nil_append] at first ⊢
      simp [cutAtLine?, first, h, Function.comp_def]
  | cons c line =>
    have hc := beq_feed_of_notMem free
    rw [List.cons_append] at first ⊢
    rw [cutAtLine?, first, h]
    simp only [Bool.and_false, Bool.false_eq_true, if_false, hc]
    rw [cutAtLine?_insideLine p fun m => free (List.mem_cons_of_mem c m), Option.map_map]
    rfl

/-- A text is cut at the first of its lines that has a property. -/
theorem cutAtLine?_ofLines (p : Text → Bool) {lines : List Text} (ls : AreLines lines)
    (ne : lines ≠ []) :
    cutAtLine? p true (ofLines lines) =
      (lines.findIdx? p).map fun n => (beforeLine (lines.take n), ofLines (lines.drop n)) := by
  induction lines with
  | nil => exact absurd rfl ne
  | cons line later ih =>
    have free := (areLines_cons.1 ls).1
    have first := firstLine_ofLines free later
    rw [List.findIdx?_cons]
    cases h : p line with
    | true =>
      rw [if_pos rfl, Option.map_some, List.take_zero, List.drop_zero]
      cases same : ofLines (line :: later) with
      | nil =>
        obtain rfl : line = [] := by rw [← first, same]; rfl
        simp [cutAtLine?, h, beforeLine]
      | cons c text => rw [cutAtLine?, ← same, first, h]; rfl
    | false =>
      rw [cutAtLine?_cons p free h]
      cases later with
      | nil => simp [cutAtLine?]
      | cons next later =>
        rw [afterLine_cons, cutAtLine?]
        simp only [Bool.false_and, Bool.false_eq_true, if_false, beq_self_eq_true]
        rw [ih (areLines_cons.1 ls).2 (by simp)]
        simp [Option.map_map, Function.comp_def, beforeLine_cons]

theorem newline_notMem_of_isName {name : Text} (h : isName name = true) : '\n' ∉ name := by
  intro m
  cases name with
  | nil => simp at m
  | cons c name =>
    simp only [isName, Bool.and_eq_true, List.all_eq_true] at h
    rcases List.mem_cons.1 m with rfl | m
    · exact absurd h.1 (by decide)
    · exact absurd (h.2 _ m) (by decide)

end Text

namespace Directive

theorem closes_iff {line : Text} :
    closes line = true ↔
      ∃ blanks, line = mark ++ terminator ++ blanks ∧ ∀ c ∈ blanks, Text.isInlineBlank c := by
  cases h : Text.after? (mark ++ terminator) line with
  | none =>
    simp only [closes, h, Bool.false_eq_true, false_iff, not_exists, not_and]
    intro blanks same
    rw [same, Text.after?_append] at h
    simp at h
  | some rest =>
    have same := Text.after?_eq_some h
    simp only [closes, h, List.all_eq_true]
    constructor
    · intro blank
      exact ⟨rest, same, blank⟩
    · rintro ⟨blanks, same', blank⟩
      rwa [List.append_cancel_left (same.symm.trans same')]

/-- The rest of a line behind a name that is complete there. -/
def opening? (name line : Text) : Option Text :=
  (Text.after? (mark ++ name) line).filter nameEnds

/-- The rest of a line behind a name, if it is a blank and at least one more character. -/
def inlineRest? (name line : Text) : Option Text :=
  (Text.after? (mark ++ name) line).filter fun rest =>
    rest.head?.any Text.isInlineBlank && 2 ≤ rest.length

/-- Reads inline directives of one name; each of them is a line. -/
def inlineLine (name : Text) (page : Entries) : LineReader Occurrence := fun line _ => do
  let rest ← inlineRest? name line
  some (⟨.inline, name, Text.trim rest, Text.trim rest, [], line, page⟩, 0)

/-- Reads blocks of one name: from an opening line up to the first line behind it that closes. -/
def blockLines (name : Text) (page : Entries) : LineReader Occurrence := fun line later => do
  let args ← opening? name line
  let last ← later.findIdx? closes
  some (⟨.block, name, Text.trim args, [], Text.trim (Text.ofLines (later.take last)),
    Text.ofLines (line :: later.take (last + 1)), page⟩, last + 1)

/-- Reads the directives of one name in one form. -/
def reader (name : Text) (page : Entries) : Form → LineReader Occurrence
  | .inline => inlineLine name page
  | .block => blockLines name page

theorem inlineTail?_line {rest : Text} (free : '\n' ∉ rest) (later : List Text) :
    inlineTail? (rest ++ Text.afterLine later) =
      if rest.head?.any Text.isInlineBlank && 2 ≤ rest.length then some rest else none := by
  rw [inlineTail?, Text.firstLine_append free]
  rcases rest with _ | ⟨c, _ | ⟨d, rest⟩⟩ <;> simp

theorem inlineForm_reads {name : Text} (free : '\n' ∉ name) (page : Entries) :
    (inlineForm name page).Reads (inlineLine name page) where
  insideLine _ := rfl
  emptyLine _ := rfl
  lineStart line later ls := by
    have markFree : '\n' ∉ mark ++ name := by simpa [mark] using free
    rw [Text.ofLines_cons]
    simp only [inlineForm, inlineLine, inlineRest?, Text.after?_line markFree]
    cases h : Text.after? (mark ++ name) line with
    | none => rfl
    | some rest =>
      obtain rfl := Text.after?_eq_some h
      have restFree : '\n' ∉ rest := by
        intro m
        exact (Text.areLines_cons.1 ls).1 (List.mem_append_right _ m)
      simp only [Bool.not_true, Bool.false_eq_true, if_false, Option.map_some, Option.bind_eq_bind,
        Option.bind_some, inlineTail?_line restFree, Option.filter_some]
      split
      · rw [Option.bind_some, Option.bind_some, Option.map_some, ← List.length_append,
          List.take_left, List.take_zero, Text.ofLines_cons, Text.afterLine_nil, List.append_nil]
      · rfl

theorem nameEnds_append_afterLine (rest : Text) (later : List Text) :
    nameEnds (rest ++ Text.afterLine later) = nameEnds rest := by
  cases rest with
  | cons c rest => rfl
  | nil =>
    cases later with
    | nil => rfl
    | cons next later =>
      rw [Text.afterLine_cons]
      exact (by decide : (!Text.isNameChar '\n') = true)

/-- The rest of a block goes on to the first later line that closes. -/
theorem blockTail?_lines (isClosing : Text → Bool) {args : Text} {later : List Text}
    (ls : Text.AreLines (args :: later)) :
    blockTail? isClosing (args ++ Text.afterLine later) =
      (later.findIdx? isClosing).map fun last =>
        ⟨args, Text.beforeLine (later.take last),
          (args ++ Text.afterLine (later.take (last + 1))).length⟩ := by
  simp only [blockTail?, Text.firstLine_append (Text.areLines_cons.1 ls).1, List.drop_left]
  cases later with
  | nil => rfl
  | cons next later =>
    have behind := (Text.areLines_cons.1 ls).2
    simp only [Text.afterLine_cons]
    rw [Text.cutAtLine?_ofLines isClosing behind (by simp), Option.map_map]
    refine Option.map_congr fun last hlast => ?_
    have lt : last < (next :: later).length :=
      (List.findIdx?_eq_some_iff_getElem.1 (Option.mem_def.1 hlast)).1
    have closing : Text.firstLine (Text.ofLines ((next :: later).drop last)) =
        (next :: later)[last] := by
      rw [List.drop_eq_getElem_cons lt]
      exact Text.firstLine_ofLines (behind _ (List.getElem_mem lt)) _
    have size : (Text.afterLine ((next :: later).take (last + 1))).length =
        (Text.beforeLine ((next :: later).take last)).length + 1 +
          ((next :: later)[last]).length := by
      rw [← List.take_append_getElem lt, Text.afterLine_append, List.length_append,
        Text.length_beforeLine, Text.afterLine_cons, List.length_cons, Text.ofLines_cons,
        Text.afterLine_nil, List.append_nil]
      omega
    simp only [Function.comp_def, closing, List.length_append, size]
    congr 1
    omega

theorem blockForm_reads {name : Text} (free : '\n' ∉ name) (page : Entries) :
    (blockForm name page).Reads (blockLines name page) where
  insideLine _ := rfl
  emptyLine _ := rfl
  lineStart line later ls := by
    have markFree : '\n' ∉ mark ++ name := by simpa [mark] using free
    simp only [blockForm, blockLines, opening?]
    rw [Text.ofLines_cons, Text.after?_line markFree]
    cases h : Text.after? (mark ++ name) line with
    | none => rfl
    | some rest =>
      obtain rfl := Text.after?_eq_some h
      have restLines : Text.AreLines (rest :: later) := by
        rw [Text.areLines_cons, List.mem_append, not_or] at ls
        exact Text.areLines_cons.2 ⟨ls.1.2, ls.2⟩
      simp only [Bool.not_true, Bool.false_eq_true, if_false, Option.map_some, Option.bind_eq_bind,
        Option.bind_some, nameEnds_append_afterLine, Option.filter_some]
      cases nameEnds rest with
      | false => rfl
      | true =>
        simp only [Bool.not_true, Bool.false_eq_true, if_false, if_true, Option.bind_some,
          blockTail?_lines closes restLines]
        cases later.findIdx? closes with
        | none => rfl
        | some last =>
          have taken : Text.ofLines ((mark ++ name ++ rest) :: later.take (last + 1)) =
              mark ++ name ++ (rest ++ Text.afterLine (later.take (last + 1))) := by
            rw [Text.ofLines_cons, List.append_assoc]
          have whole : mark ++ name ++ rest ++ Text.afterLine later =
              Text.ofLines ((mark ++ name ++ rest) :: later.take (last + 1)) ++
                Text.afterLine (later.drop (last + 1)) := by
            rw [Text.ofLines_take_append, Text.ofLines_cons]
          simp only [Option.map_some, Option.bind_some, Text.trim_beforeLine]
          rw [← List.length_append, whole, taken, List.take_left]

theorem recogniser_reads {name : Text} (free : '\n' ∉ name) (page : Entries) (form : Form) :
    (recogniser name page form).Reads (reader name page form) := by
  cases form with
  | inline => exact inlineForm_reads free page
  | block => exact blockForm_reads free page

theorem inlineLine_eq_some_iff {name line : Text} {page : Entries} {later : List Text}
    {o : Occurrence} {more : Nat} :
    inlineLine name page line later = some (o, more) ↔
      ∃ rest, inlineRest? name line = some rest ∧ more = 0 ∧
        o = ⟨.inline, name, Text.trim rest, Text.trim rest, [], line, page⟩ := by
  simp only [inlineLine, Option.bind_eq_bind, Option.bind_eq_some_iff, Option.some.injEq,
    Prod.mk.injEq]
  constructor
  · rintro ⟨rest, hrest, rfl, rfl⟩
    exact ⟨rest, hrest, rfl, rfl⟩
  · rintro ⟨rest, hrest, rfl, rfl⟩
    exact ⟨rest, hrest, rfl, rfl⟩

theorem blockLines_eq_some_iff {name line : Text} {page : Entries} {later : List Text}
    {o : Occurrence} {more : Nat} :
    blockLines name page line later = some (o, more) ↔
      ∃ args, opening? name line = some args ∧ ∃ last, later.findIdx? closes = some last ∧
        more = last + 1 ∧
        o = ⟨.block, name, Text.trim args, [], Text.trim (Text.ofLines (later.take last)),
          Text.ofLines (line :: later.take (last + 1)), page⟩ := by
  simp only [blockLines, Option.bind_eq_bind, Option.bind_eq_some_iff, Option.some.injEq,
    Prod.mk.injEq]
  constructor
  · rintro ⟨args, hargs, last, hlast, rfl, rfl⟩
    exact ⟨args, hargs, last, hlast, rfl, rfl⟩
  · rintro ⟨args, hargs, last, hlast, rfl, rfl⟩
    exact ⟨args, hargs, last, hlast, rfl, rfl⟩

theorem raw_of_reader {name line : Text} {page : Entries} {form : Form} {later : List Text}
    {o : Occurrence} {more : Nat} (h : reader name page form line later = some (o, more)) :
    o.raw = Text.ofLines (line :: later.take more) := by
  cases form with
  | inline =>
    change inlineLine name page line later = some (o, more) at h
    obtain ⟨rest, -, rfl, rfl⟩ := inlineLine_eq_some_iff.1 h
    simp [Text.ofLines_cons]
  | block =>
    obtain ⟨args, -, last, -, rfl, rfl⟩ := blockLines_eq_some_iff.1 h
    rfl

theorem name_of_reader {name line : Text} {page : Entries} {form : Form} {later : List Text}
    {o : Occurrence} {more : Nat} (h : reader name page form line later = some (o, more)) :
    o.name = name := by
  cases form with
  | inline =>
    change inlineLine name page line later = some (o, more) at h
    obtain ⟨rest, -, -, rfl⟩ := inlineLine_eq_some_iff.1 h
    rfl
  | block =>
    obtain ⟨args, -, last, -, -, rfl⟩ := blockLines_eq_some_iff.1 h
    rfl

/-- What a scan finds is read at a line of the text. -/
theorem exists_read_of_mem_scan {name : Text} (free : '\n' ∉ name) {text : Text} {form : Form}
    {page : Entries} {s : Located Occurrence} (hs : s ∈ scan text name form page) :
    ∃ line later more, Text.AreLines (line :: later) ∧
      reader name page form line later = some (s.found, more) := by
  have mem : s.found ∈ (reader name page form).found (Text.lines text) := by
    rw [scan, (recogniser_reads free page form).all_eq] at hs
    exact List.mem_map_of_mem hs
  obtain ⟨line, later, more, suffix, read⟩ := LineReader.exists_read_of_mem_found mem
  exact ⟨line, later, more, fun l hl => Text.areLines_lines text l (suffix.subset hl), read⟩

theorem name_of_mem_scan {name : Text} (free : '\n' ∉ name) {text : Text} {form : Form}
    {page : Entries} {s : Located Occurrence} (hs : s ∈ scan text name form page) :
    s.found.name = name := by
  obtain ⟨line, later, more, -, read⟩ := exists_read_of_mem_scan free hs
  exact name_of_reader read

/-- An occurrence keeps the text that it takes. -/
theorem raw_of_recogniser {name : Text} (free : '\n' ∉ name) {page : Entries} {form : Form}
    {flag : Bool} {text : Text} {o : Occurrence} {size : Nat}
    (h : recogniser name page form flag text = some (o, size)) :
    0 < size ∧ size ≤ text.length ∧ text.take size = o.raw := by
  have reads := recogniser_reads free page form
  cases flag with
  | false => simp [reads.insideLine] at h
  | true =>
    obtain ⟨line, later, ls, rfl, -⟩ := Text.exists_lines text
    rw [reads.lineStart line later ls, Option.map_eq_some_iff] at h
    obtain ⟨⟨found, more⟩, read, same⟩ := h
    obtain ⟨rfl, rfl⟩ : found = o ∧ (Text.ofLines (line :: later.take more)).length = size := by
      simpa using same
    obtain ⟨c, rest, -, -, pos⟩ := reads.exists_of_read read
    rw [raw_of_reader read, ← Text.ofLines_take_append line later more]
    exact ⟨pos, by simp, List.take_left⟩

theorem placed_of_mem_scan {name : Text} (free : '\n' ∉ name) {text : Text} {form : Form}
    {page : Entries} {s : Located Occurrence} (hs : s ∈ scan text name form page) :
    s.start < s.stop ∧ s.stop ≤ text.length ∧ Text.slice text s.start s.stop = s.found.raw := by
  obtain ⟨lt, flag, size, read, stop⟩ := Search.exists_read_of_mem_all hs
  obtain ⟨pos, le, raw⟩ := raw_of_recogniser free read
  rw [List.length_drop] at le
  have width : s.stop - s.start = size := by omega
  exact ⟨by omega, by omega, by rw [Text.slice, width, raw]⟩

/-- Scanning a text for the directives of one name and form finds what a search from line to line
finds, in document order, without overlap, and each as it stands in the text. -/
theorem scan_eq_allFrom_lines {name : Text} (valid : Text.isName name = true) (text : Text)
    (form : Form) (page : Entries) :
    scan text name form page = (reader name page form).allFrom 0 (Text.lines text) ∧
      (scan text name form page).Pairwise (fun s t => s.stop ≤ t.start) ∧
      ∀ s ∈ scan text name form page, s.start < s.stop ∧ s.stop ≤ text.length ∧
        Text.slice text s.start s.stop = s.found.raw := by
  have free := Text.newline_notMem_of_isName valid
  exact ⟨(recogniser_reads free page form).all_eq text, Search.all_pairwise text,
    fun s hs => placed_of_mem_scan free hs⟩

/-- A blank behind the terminator, a longer name, an empty body, and an opening line that nothing
closes. -/
theorem scan_box_from_line_to_line :
    let text : Text := "::box a\nx\n::end \n::boxes\n::box\n\n::end\n::box"
    Text.isName "box" = true ∧
      (scan text "box" .block []).map (fun s => (s.start, s.stop)) = [(0, 16), (25, 37)] ∧
      scan text "box" .block [] = (reader "box" [] .block).allFrom 0 (Text.lines text) ∧
      (scan text "box" .block []).Pairwise (fun s t => s.stop ≤ t.start) ∧
      ∀ s ∈ scan text "box" .block [], s.start < s.stop ∧ s.stop ≤ text.length ∧
        Text.slice text s.start s.stop = s.found.raw :=
  ⟨by decide, by decide +kernel, scan_eq_allFrom_lines (by decide) _ .block []⟩

end Directive
end PageDirectives
