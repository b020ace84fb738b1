import Mathlib.Data.List.TakeWhile
import PageDirectives.Completion.Prompt
import PageDirectives.Proofs.Directive.Opening
import PageDirectives.Proofs.Text.LineMerge
/-!
Directives that ask for completions, read line by line. Blanks, the mark and the name begin such a
line. It opens a block if its arguments are only pairs and a later line closes it; otherwise it is
inline if a blank and at least one more character stand behind the name.
-/
namespace PageDirectives.Prompted

open Directive

/-- What stands behind the mark and the name at the front of a line, blanks before them apart. -/
def rest? (line : Text) : Option Text :=
  Text.after? (mark ++ name) (line.dropWhile Text.isInlineBlank)

/-- The arguments of a line that can open a block. -/
def openingArgs? (line : Text) : Option Text := do
  let rest ← (rest? line).filter nameEnds
  let args := Text.trim rest
  if args = [] ∨ Argument.isOnlyPairs args then some args else none

/-- The directive that a line has by itself. -/
def inlineLine? (line : Text) : Option Prompted :=
  ((rest? line).filter isInlineTail).map fun rest => ⟨false, Text.trim rest, []⟩

/-- Reads blocks: from an opening line up to the first line behind it that closes. -/
def blockLines : LineReader Prompted := fun line later => do
  let args ← openingArgs? line
  let last ← later.findIdx? closes
  some (⟨true, args, Text.beforeLine (later.take last)⟩, last + 1)

/-- Reads a block where one begins, and else a line that is a directive by itself. -/
def reader : LineReader Prompted := blockLines.orElse (LineReader.ofLine inlineLine?)

theorem dropWhile_blanks {blanks : Text} (h : ∀ c ∈ blanks, Text.isInlineBlank c = true)
    (rest : Text) :
    (blanks ++ (mark ++ rest)).dropWhile Text.isInlineBlank = mark ++ rest := by
  have colon : Text.isInlineBlank ':' = false := by decide
  rw [List.dropWhile_append_of_pos h]
  simp [mark, colon]

theorem rest?_eq_some_iff {line rest : Text} :
    rest? line = some rest ↔ ∃ blanks, line = blanks ++ (mark ++ name ++ rest) ∧
      ∀ c ∈ blanks, Text.isInlineBlank c = true := by
  rw [rest?, Text.after?_eq_some_iff]
  constructor
  · intro same
    refine ⟨line.takeWhile Text.isInlineBlank, ?_, fun c hc => List.mem_takeWhile_imp hc⟩
    rw [← same, List.takeWhile_append_dropWhile]
  · rintro ⟨blanks, rfl, blank⟩
    rw [List.append_assoc, dropWhile_blanks blank]

theorem closes_iff {line : Text} :
    closes line = true ↔ ∃ front back, line = front ++ (mark ++ terminator ++ back) ∧
      (∀ c ∈ front, Text.isInlineBlank c = true) ∧ ∀ c ∈ back, Text.isInlineBlank c = true := by
  rw [closes, Directive.closes_iff]
  constructor
  · rintro ⟨back, same, blank⟩
    refine ⟨line.takeWhile Text.isInlineBlank, back, ?_, fun c hc => List.mem_takeWhile_imp hc,
      blank⟩
    rw [← same, List.takeWhile_append_dropWhile]
  · rintro ⟨front, back, rfl, frontBlank, backBlank⟩
    exact ⟨back, by rw [List.append_assoc, dropWhile_blanks frontBlank], backBlank⟩

theorem opening?_lines (line : Text) (later : List Text) :
    opening? (line ++ Text.afterLine later) = (rest? line).map fun rest =>
      (line.length - rest.length, rest ++ Text.afterLine later) := by
  have feed : Text.isInlineBlank '\n' = false := by decide
  have free : '\n' ∉ mark ++ name := by decide
  have front : line.takeWhile Text.isInlineBlank ++ line.dropWhile Text.isInlineBlank = line :=
    List.takeWhile_append_dropWhile
  have behind : (line ++ Text.afterLine later).drop (line.takeWhile Text.isInlineBlank).length =
      line.dropWhile Text.isInlineBlank ++ Text.afterLine later := by
    have split : line ++ Text.afterLine later = line.takeWhile Text.isInlineBlank ++
        (line.dropWhile Text.isInlineBlank ++ Text.afterLine later) := by
      rw [← List.append_assoc, front]
    rw [split, List.drop_left]
  simp only [opening?, Text.takeWhile_line feed, behind, Text.after?_line free, rest?]
  cases h : Text.after? (mark ++ name) (line.dropWhile Text.isInlineBlank) with
  | none => rfl
  | some rest =>
    have sizes := congrArg List.length front
    rw [Text.after?_eq_some h] at sizes
    simp only [List.length_append] at sizes
    simp only [Option.map_some, Option.bind_eq_bind, Option.bind_some, Option.some.injEq,
      Prod.mk.injEq, List.length_append, and_true]
    omega

theorem length_of_rest? {line rest : Text} (h : rest? line = some rest) :
    line.length - rest.length + rest.length = line.length := by
  obtain ⟨blanks, rfl, -⟩ := rest?_eq_some_iff.1 h
  simp only [List.length_append]
  omega

theorem areLines_of_rest? {line rest : Text} {later : List Text} (h : rest? line = some rest)
    (ls : Text.AreLines (line :: later)) : Text.AreLines (rest :: later) := by
  obtain ⟨blanks, rfl, -⟩ := rest?_eq_some_iff.1 h
  rw [← List.append_assoc, Text.areLines_cons, List.mem_append, not_or] at ls
  exact Text.areLines_cons.2 ⟨ls.1.2, ls.2⟩

/-- A line of inline shape is read whatever stands behind it: if it opens no block, by itself. -/
theorem reader_isSome {line rest : Text} (h : rest? line = some rest)
    (shape : isInlineTail rest = true) (later : List Text) : (reader line later).isSome := by
  have single : (inlineLine? line).isSome := by
    rw [inlineLine?, h, Option.filter_some, if_pos shape]
    rfl
  rw [reader, LineReader.orElse, LineReader.ofLine, Option.isSome_or, Option.isSome_map, single,
    Bool.or_true]

theorem openingArgs?_eq_some_iff {line args : Text} :
    openingArgs? line = some args ↔ ∃ rest, rest? line = some rest ∧ nameEnds rest = true ∧
      args = Text.trim rest ∧ (args = [] ∨ Argument.isOnlyPairs args = true) := by
  simp only [openingArgs?, Option.bind_eq_bind, Option.bind_eq_some_iff, Option.filter_eq_some_iff]
  constructor
  · rintro ⟨rest, ⟨found, ends⟩, made⟩
    split at made
    · next pairs =>
      obtain rfl := Option.some.inj made
      exact ⟨rest, found, ends, rfl, pairs⟩
    · exact nomatch made
  · rintro ⟨rest, found, ends, rfl, pairs⟩
    exact ⟨rest, ⟨found, ends⟩, if_pos pairs⟩

theorem inlineLine?_eq_some_iff {line : Text} {p : Prompted} :
    inlineLine? line = some p ↔ ∃ rest, rest? line = some rest ∧ isInlineTail rest = true ∧
      p = ⟨false, Text.trim rest, []⟩ := by
  simp only [inlineLine?, Option.map_eq_some_iff, Option.filter_eq_some_iff]
  constructor
  · rintro ⟨rest, ⟨found, shape⟩, rfl⟩
    exact ⟨rest, found, shape, rfl⟩
  · rintro ⟨rest, found, shape, rfl⟩
    exact ⟨rest, ⟨found, shape⟩, rfl⟩

theorem blockLines_eq_some_iff {line : Text} {later : List Text} {p : Prompted} {more : Nat} :
    blockLines line later = some (p, more) ↔ ∃ args last, openingArgs? line = some args ∧
      later.findIdx? closes = some last ∧ p = ⟨true, args, Text.beforeLine (later.take last)⟩ ∧
      more = last + 1 := by
  simp only [blockLines, Option.bind_eq_bind, Option.bind_eq_some_iff]
  constructor
  · rintro ⟨args, opened, last, closed, made⟩
    obtain ⟨rfl, rfl⟩ := Prod.mk.inj (Option.some.inj made)
    exact ⟨args, last, opened, closed, rfl, rfl⟩
  · rintro ⟨args, last, opened, closed, rfl, rfl⟩
    exact ⟨args, opened, last, closed, rfl⟩

theorem blockLines_eq_none_iff {line : Text} {later : List Text} :
    blockLines line later = none ↔ openingArgs? line = none ∨ later.findIdx? closes = none := by
  rw [blockLines]
  cases openingArgs? line with
  | none => simp
  | some args => cases later.findIdx? closes <;> simp

/-- What a line is read as: a block if it opens one and a later line closes it, and else a directive
by itself. -/
theorem reader_eq_some_iff {line : Text} {later : List Text} {p : Prompted} {more : Nat} :
    reader line later = some (p, more) ↔
      (∃ args last, openingArgs? line = some args ∧ later.findIdx? closes = some last ∧
        p = ⟨true, args, Text.beforeLine (later.take last)⟩ ∧ more = last + 1) ∨
      ((openingArgs? line = none ∨ later.findIdx? closes = none) ∧ inlineLine? line = some p ∧
        more = 0) := by
  have single : LineReader.ofLine inlineLine? line later = some (p, more) ↔
      inlineLine? line = some p ∧ more = 0 := by
    simp only [LineReader.ofLine, Option.map_eq_some_iff, Prod.mk.injEq]
    constructor
    · rintro ⟨q, read, rfl, rfl⟩
      exact ⟨read, rfl⟩
    · rintro ⟨read, rfl⟩
      exact ⟨p, read, rfl, rfl⟩
  rw [reader, LineReader.orElse, Option.or_eq_some_iff, blockLines_eq_some_iff,
    blockLines_eq_none_iff, single]

/-- Lines further down make no difference to what a line is read as, if they bring no earlier end to
a block. -/
theorem reader_append_of_findIdx? {later after : List Text}
    (same : (later ++ after).findIdx? closes = later.findIdx? closes) (line : Text) :
    reader line (later ++ after) = reader line later ∧
      ∀ p more, reader line later = some (p, more) → more ≤ later.length := by
  constructor
  · have blocks : blockLines line (later ++ after) = blockLines line later := by
      rw [blockLines, blockLines, same]
      cases closed : later.findIdx? closes with
      | none => rfl
      | some last =>
        have lt : last < later.length := (List.findIdx?_eq_some_iff_getElem.1 closed).1
        simp only [Option.bind_eq_bind, Option.bind_some, List.take_append_of_le_length lt.le]
    rw [reader, LineReader.orElse, blocks]
    rfl
  · intro p more read
    rcases reader_eq_some_iff.1 read with ⟨args, last, -, closed, -, rfl⟩ | ⟨-, -, rfl⟩
    · exact (List.findIdx?_eq_some_iff_getElem.1 closed).1
    · exact Nat.zero_le _

theorem inlineForm_reads : inlineForm.Reads (LineReader.ofLine inlineLine?) where
  insideLine _ := rfl
  emptyLine _ := rfl
  lineStart line later ls := by
    rw [Text.ofLines_cons]
    simp only [inlineForm, Bool.not_true, Bool.false_eq_true, if_false, opening?_lines,
      LineReader.ofLine, inlineLine?]
    cases h : rest? line with
    | none => rfl
    | some rest =>
      have free := (Text.areLines_cons.1 (areLines_of_rest? h ls)).1
      have size := length_of_rest? h
      have tail := inlineTail?_line free later
      rw [← isInlineTail] at tail
      simp only [Option.map_some, Option.bind_eq_bind, Option.bind_some, tail, Option.filter_some]
      split
      · simp [size, Text.ofLines_cons]
      · rfl

theorem blockForm_reads : blockForm.Reads blockLines where
  insideLine _ := rfl
  emptyLine _ := rfl
  lineStart line later ls := by
    rw [Text.ofLines_cons]
    simp only [blockForm, Bool.not_true, Bool.false_eq_true, if_false, opening?_lines, blockLines,
      openingArgs?]
    cases h : rest? line with
    | none => rfl
    | some rest =>
      have size := length_of_rest? h
      simp only [Option.map_some, Option.bind_eq_bind, Option.bind_some, nameEnds_append_afterLine,
        Option.filter_some]
      cases nameEnds rest with
      | false => rfl
      | true =>
        simp only [Bool.not_true, Bool.false_eq_true, if_false, if_true, Option.bind_some,
          blockTail?_lines closes (areLines_of_rest? h ls)]
        by_cases pairs : Text.trim rest = [] ∨ Argument.isOnlyPairs (Text.trim rest) = true
        · cases later.findIdx? closes with
          | none => simp [pairs]
          | some last =>
            simp only [Option.map_some, Option.bind_some, if_pos pairs, Text.ofLines_cons,
              List.length_append, ← Nat.add_assoc, size]
        · cases later.findIdx? closes <;> simp [pairs]

end PageDirectives.Prompted
