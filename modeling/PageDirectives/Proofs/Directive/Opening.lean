import PageDirectives.Proofs.Directive.Marked
import PageDirectives.Proofs.Text.LineSpans
/-!
Opening lines: a mark, a name that is complete, and the rest of the line. No blank can stand in a
name, so a line opens directives of one name at most, and the line that closes blocks opens none.
-/
namespace PageDirectives

namespace Text

theorem isNameChar_of_isNameStart {c : Char} (h : isNameStart c = true) : isNameChar c = true := by
  rw [isNameStart, Bool.or_eq_true] at h
  rcases h with alpha | low
  · have small : c.toNat < 128 := by
      have : c.toNat = c.val.toNat := rfl
      delta Char.isAlpha Char.isUpper Char.isLower at alpha
      simp [UInt32.le_iff_toNat_le] at alpha
      omega
    simp [isNameChar, isWordChar, isAlphanumeric, small, Char.isAlphanum, alpha]
  · rw [beq_iff_eq.1 low]
    decide

theorem isNameChar_of_isName {name : Text} (h : isName name = true) :
    ∀ c ∈ name, isNameChar c = true := by
  cases name with
  | nil => simp
  | cons c name =>
    rw [isName, Bool.and_eq_true, List.all_eq_true] at h
    exact List.forall_mem_cons.2 ⟨isNameChar_of_isNameStart h.1, h.2⟩

theorem isNameChar_of_isBlank {c : Char} (h : isBlank c = true) : isNameChar c = false := by
  have among : c.toNat ∈ List.range' 9 5 ++ List.range' 28 5 ++ [0x85, 0xa0, 0x1680] ++
      List.range' 0x2000 11 ++ [0x2028, 0x2029, 0x202f, 0x205f, 0x3000] := by
    simp only [isBlank, Bool.or_eq_true, Bool.and_eq_true, decide_eq_true_eq, beq_iff_eq] at h
    simp only [List.mem_append, List.mem_range'_1, List.mem_cons, List.not_mem_nil, or_false]
    omega
  have none : ∀ n ∈ List.range' 9 5 ++ List.range' 28 5 ++ [0x85, 0xa0, 0x1680] ++
      List.range' 0x2000 11 ++ [0x2028, 0x2029, 0x202f, 0x205f, 0x3000],
      isNameChar (Char.ofNat n) = false := by decide +kernel
  have := none _ among
  rwa [Char.ofNat_toNat] at this

theorem isInlineBlank_of_isBlank {c : Char} (blank : isBlank c = true) (inside : c ≠ '\n') :
    isInlineBlank c = true := by
  rw [isInlineBlank, blank, bne_iff_ne.2 inside]
  rfl

end Text

namespace Directive

/-- The line that opens a block, or is an inline directive. -/
def openingLine (name tail : Text) : Text := mark ++ name ++ tail

/-- The line that closes a block. -/
def closingLine : Text := openingLine terminator []

/-- Whether what stands behind a name makes a line an inline directive. -/
def isInlineTail (tail : Text) : Bool := tail.head?.any Text.isInlineBlank && 2 ≤ tail.length

theorem newline_notMem_openingLine {name tail : Text} (valid : Text.isName name = true)
    (free : '\n' ∉ tail) : '\n' ∉ openingLine name tail := by
  have := Text.newline_notMem_of_isName valid
  simp [openingLine, mark, this, free]

theorem newline_notMem_closingLine : '\n' ∉ closingLine := by decide

theorem closes_closingLine : closes closingLine = true := by decide

theorem nameEnds_of_blanks {blanks : Text} (blank : ∀ c ∈ blanks, Text.isInlineBlank c = true) :
    nameEnds blanks = true := by
  cases blanks with
  | nil => rfl
  | cons c blanks =>
    have first : Text.isBlank c = true := by
      have := blank c List.mem_cons_self
      rw [Text.isInlineBlank, Bool.and_eq_true] at this
      exact this.1
    rw [nameEnds, Text.isNameChar_of_isBlank first]
    rfl

theorem nameEnds_of_isInlineTail {tail : Text} (h : isInlineTail tail = true) :
    nameEnds tail = true := by
  cases tail with
  | nil => rfl
  | cons c tail =>
    have blank : Text.isBlank c = true := by
      simp [isInlineTail, Text.isInlineBlank] at h
      exact h.1.1
    rw [nameEnds, Text.isNameChar_of_isBlank blank]
    rfl

/-- Blanks alone make a line an inline directive if there are two at least: the first of them stands
behind the name, and the others are taken for a value. -/
theorem isInlineTail_iff_of_blank {blanks : Text} (blank : ∀ c ∈ blanks, Text.isBlank c = true)
    (free : '\n' ∉ blanks) : isInlineTail blanks = true ↔ 2 ≤ blanks.length := by
  rw [isInlineTail, Bool.and_eq_true, decide_eq_true_iff, and_iff_right_iff_imp]
  intro long
  obtain ⟨c, rest, rfl⟩ := List.exists_cons_of_length_pos (Nat.lt_of_lt_of_le Nat.two_pos long)
  exact Text.isInlineBlank_of_isBlank (blank c List.mem_cons_self)
    fun same => free (same ▸ List.mem_cons_self)

theorem takeWhile_isNameChar_append {name rest : Text} (valid : Text.isName name = true)
    (ends : nameEnds rest = true) : (name ++ rest).takeWhile Text.isNameChar = name := by
  apply Text.takeWhile_of_stop (Text.isNameChar_of_isName valid)
  cases rest with
  | nil => exact fun _ none => nomatch none
  | cons c rest =>
    have stop : Text.isNameChar c = false := by simpa [nameEnds] using ends
    simpa using stop

/-- A line that opens a directive shows its name. -/
theorem shownName?_openingLine {name tail : Text} (valid : Text.isName name = true)
    (ends : nameEnds tail = true) : shownName? (openingLine name tail) = some name := by
  have filled : name ≠ [] := by
    rintro rfl
    exact Bool.noConfusion valid
  rw [shownName?, openingLine, List.append_assoc, Text.after?_append, Option.map_some,
    takeWhile_isNameChar_append valid ends, Option.filter_some, if_pos (bne_iff_ne.2 filled)]

theorem openingLine_inj {name name' tail tail' : Text} (valid : Text.isName name = true)
    (valid' : Text.isName name' = true) (ends : nameEnds tail = true)
    (ends' : nameEnds tail' = true) (same : openingLine name tail = openingLine name' tail') :
    name = name' ∧ tail = tail' := by
  rw [openingLine, openingLine, List.append_assoc, List.append_assoc,
    List.append_cancel_left_eq] at same
  have names : name = name' := by
    rw [← takeWhile_isNameChar_append valid ends, same, takeWhile_isNameChar_append valid' ends']
  subst names
  exact ⟨rfl, List.append_cancel_left same⟩

theorem opening?_eq_some_iff {name line rest : Text} :
    opening? name line = some rest ↔ line = openingLine name rest ∧ nameEnds rest = true := by
  rw [opening?, Option.filter_eq_some_iff, Text.after?_eq_some_iff]
  rfl

theorem inlineRest?_eq_some_iff {name line rest : Text} :
    inlineRest? name line = some rest ↔
      line = openingLine name rest ∧ isInlineTail rest = true := by
  rw [inlineRest?, Option.filter_eq_some_iff, Text.after?_eq_some_iff]
  rfl

/-- An inline directive as it is found. -/
def inlineOccurrence (page : Entries) (name tail : Text) : Occurrence :=
  ⟨.inline, name, Text.trim tail, Text.trim tail, [], openingLine name tail, page⟩

theorem reader_inline_eq_some_iff {name line : Text} {page : Entries} {later : List Text}
    {o : Occurrence} {more : Nat} :
    reader name page .inline line later = some (o, more) ↔
      ∃ tail, line = openingLine name tail ∧ isInlineTail tail = true ∧
        o = inlineOccurrence page name tail ∧ more = 0 := by
  change inlineLine name page line later = some (o, more) ↔ _
  rw [inlineLine_eq_some_iff]
  constructor
  · rintro ⟨tail, rest, rfl, rfl⟩
    obtain ⟨rfl, blank⟩ := inlineRest?_eq_some_iff.1 rest
    exact ⟨tail, rfl, blank, rfl, rfl⟩
  · rintro ⟨tail, rfl, blank, rfl, rfl⟩
    exact ⟨tail, inlineRest?_eq_some_iff.2 ⟨rfl, blank⟩, rfl, rfl⟩

/-- What a scan finds starts where a line of the text stands, and is read there. -/
theorem exists_lineAt_of_mem_scan {name : Text} (free : '\n' ∉ name) {text : Text} {form : Form}
    {page : Entries} {s : Located Occurrence} (hs : s ∈ scan text name form page) :
    ∃ line later more, Text.LineAt text s.start line ∧
      reader name page form line later = some (s.found, more) := by
  rw [scan, (recogniser_reads free page form).all_eq] at hs
  obtain ⟨before, line, later, more, cut, start, read⟩ := LineReader.exists_line_of_mem_allFrom hs
  exact ⟨line, later, more, ⟨before, later, cut, by rw [start, Nat.zero_add]⟩, read⟩

/-- A block as it is found, with the lines of its body. -/
def blockOccurrence (page : Entries) (name tail : Text) (body : List Text) : Occurrence :=
  ⟨.block, name, Text.trim tail, [], Text.trim (Text.ofLines body),
    Text.ofLines (openingLine name tail :: (body ++ [closingLine])), page⟩

/-- A block as it is found, up to whichever line closes it. -/
def closedOccurrence (page : Entries) (name tail : Text) (body : List Text) (closing : Text) :
    Occurrence :=
  { blockOccurrence page name tail body with
    raw := Text.ofLines (openingLine name tail :: (body ++ [closing])) }

theorem findIdx?_closes {body : List Text} (open' : ∀ line ∈ body, closes line = false)
    {closing : Text} (closed : closes closing = true) (later : List Text) :
    (body ++ closing :: later).findIdx? closes = some body.length := by
  rw [List.findIdx?_append, List.findIdx?_eq_none_iff.2 open', List.findIdx?_cons, closed]
  simp

/-- A block of a name in a text: its opening line, its body, and the first line behind that closes,
between the lines above and below. -/
structure HasBlock (name tail : Text) (before body : List Text) (closing : Text)
    (after : List Text) (text : Text) : Prop where
  written : Text.lines text = before ++ openingLine name tail :: (body ++ closing :: after)
  ends : nameEnds tail = true
  inside : ∀ line ∈ body, closes line = false
  closed : closes closing = true

section Pass

variable {page : Entries} {name name' tail : Text} {form : Form}

theorem opening?_of_not_marked {line : Text} (unmarked : isMarked line = false) :
    opening? name line = none := by
  rw [opening?, after?_of_not_marked unmarked]
  rfl

/-- A line that opens directives of one name opens none of another. -/
theorem opening?_openingLine_of_ne (valid : Text.isName name = true)
    (valid' : Text.isName name' = true) (ne : name ≠ name') (ends : nameEnds tail = true) :
    opening? name (openingLine name' tail) = none := by
  refine Option.eq_none_iff_forall_ne_some.2 fun rest opened => ?_
  obtain ⟨same, ends'⟩ := opening?_eq_some_iff.1 opened
  exact ne (openingLine_inj valid valid' ends' ends same.symm).1

/-- A line that closes blocks opens none of a name that can be registered. -/
theorem opening?_of_closes {line : Text} (valid : Text.isName name = true)
    (free : isReserved name = false) (closed : closes line = true) : opening? name line = none := by
  have ne : name ≠ terminator := by simpa [isReserved] using free
  obtain ⟨blanks, rfl, blank⟩ := closes_iff.1 closed
  exact opening?_openingLine_of_ne valid (by decide) ne (nameEnds_of_blanks blank)

/-- A line that opens no block of a name is no inline directive of it either. -/
theorem reader_of_opening? {line : Text} (unread : opening? name line = none)
    (later : List Text) : reader name page form line later = none := by
  cases form with
  | inline =>
    refine (inlineLine_eq_none_iff page later).2 (Option.eq_none_iff_forall_ne_some.2 ?_)
    intro rest read
    obtain ⟨same, blank⟩ := inlineRest?_eq_some_iff.1 read
    have opened := opening?_eq_some_iff.2 ⟨same, nameEnds_of_isInlineTail blank⟩
    exact nomatch unread.symm.trans opened
  | block => exact blockLines_eq_none_iff.2 (.inl unread)

/-- A line at which a directive is read shows its name. -/
theorem shownName?_of_reader {line : Text} (valid : Text.isName name = true) {later : List Text}
    {o : Occurrence} {more : Nat} (read : reader name page form line later = some (o, more)) :
    shownName? line = some name := by
  cases opened : opening? name line with
  | none => exact nomatch (reader_of_opening? opened later).symm.trans read
  | some rest =>
    obtain ⟨rfl, ends⟩ := opening?_eq_some_iff.1 opened
    exact shownName?_openingLine valid ends

theorem reader_openingLine_of_ne (valid : Text.isName name = true)
    (valid' : Text.isName name' = true) (ne : name ≠ name') (ends : nameEnds tail = true)
    (later : List Text) : reader name page form (openingLine name' tail) later = none :=
  reader_of_opening? (opening?_openingLine_of_ne valid valid' ne ends) later

variable (image : Occurrence → Text) (later : List Text)

/-- A pass under one name goes past the opening lines of another. -/
theorem pass_openingLine_of_ne (valid : Text.isName name = true) (valid' : Text.isName name' = true)
    (ne : name ≠ name') (ends : nameEnds tail = true) :
    (reader name page form).found (openingLine name' tail :: later) =
        (reader name page form).found later ∧
      (reader name page form).exchange image (openingLine name' tail :: later) =
        openingLine name' tail :: (reader name page form).exchange image later := by
  have none : reader name page form (openingLine name' tail) later = none :=
    reader_openingLine_of_ne valid valid' ne ends later
  exact ⟨LineReader.found_of_none none, LineReader.exchange_of_none none⟩

theorem pass_closingLine (valid : Text.isName name = true) (free : isReserved name = false) :
    (reader name page form).found (closingLine :: later) = (reader name page form).found later ∧
      (reader name page form).exchange image (closingLine :: later) =
        closingLine :: (reader name page form).exchange image later := by
  have ne : name ≠ terminator := by simpa [isReserved] using free
  exact pass_openingLine_of_ne image later valid (by decide) ne (by decide)

theorem pass_inline (blank : isInlineTail tail = true) :
    (reader name page .inline).found (openingLine name tail :: later) =
        inlineOccurrence page name tail :: (reader name page .inline).found later ∧
      (reader name page .inline).exchange image (openingLine name tail :: later) =
        Text.lines (image (inlineOccurrence page name tail)) ++
          (reader name page .inline).exchange image later := by
  have read : reader name page .inline (openingLine name tail) later =
      some (inlineOccurrence page name tail, 0) :=
    reader_inline_eq_some_iff.2 ⟨tail, rfl, blank, rfl, rfl⟩
  rw [LineReader.found_of_some read, LineReader.exchange_of_some read, List.drop_zero]
  exact ⟨rfl, rfl⟩

/-- A block ends at the first line behind its opening that closes, which is not part of its body. -/
theorem pass_closed (ends : nameEnds tail = true) {body : List Text}
    (open' : ∀ line ∈ body, closes line = false) {closing : Text} (closed : closes closing = true) :
    (reader name page .block).found (openingLine name tail :: (body ++ closing :: later)) =
        closedOccurrence page name tail body closing :: (reader name page .block).found later ∧
      (reader name page .block).exchange image
          (openingLine name tail :: (body ++ closing :: later)) =
        Text.lines (image (closedOccurrence page name tail body closing)) ++
          (reader name page .block).exchange image later := by
  have read : reader name page .block (openingLine name tail) (body ++ closing :: later) =
      some (closedOccurrence page name tail body closing, body.length + 1) := by
    refine blockLines_eq_some_iff.2 ⟨tail, opening?_eq_some_iff.2 ⟨rfl, ends⟩, body.length,
      findIdx?_closes open' closed later, rfl, ?_⟩
    rw [List.take_left, List.take_length_add_append, List.take_succ_cons, List.take_zero]
    rfl
  have behind : (body ++ closing :: later).drop (body.length + 1) = later := by
    rw [List.drop_length_add_append]
    rfl
  rw [LineReader.found_of_some read, LineReader.exchange_of_some read, behind]
  exact ⟨rfl, rfl⟩

/-- A block ends at the closing line behind its body, if none stands in the body. -/
theorem pass_block (ends : nameEnds tail = true) {body : List Text}
    (open' : ∀ line ∈ body, closes line = false) :
    (reader name page .block).found (openingLine name tail :: (body ++ closingLine :: later)) =
        blockOccurrence page name tail body :: (reader name page .block).found later ∧
      (reader name page .block).exchange image
          (openingLine name tail :: (body ++ closingLine :: later)) =
        Text.lines (image (blockOccurrence page name tail body)) ++
          (reader name page .block).exchange image later :=
  pass_closed image later ends open' closes_closingLine

end Pass

end Directive
end PageDirectives
