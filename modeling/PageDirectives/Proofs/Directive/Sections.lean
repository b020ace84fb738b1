import PageDirectives.Directive.Section
import PageDirectives.Proofs.Text.Cuts
import PageDirectives.Proofs.Text.Lines
import PageDirectives.Proofs.Text.Trimming
/-!
Sections as they are written. Texts that stand between delimiter lines come back as the sections of
what they make together, as long as none of them holds a delimiter line of its own; and what holds
one between two other lines is part of no section.
-/
namespace PageDirectives.Section

/-- A delimiter line between two others. -/
def separator (delimiter : Text) : Text := '\n' :: delimiter ++ ['\n']

variable {delimiter : Text}

theorem separator_ne_nil : separator delimiter ≠ [] := List.cons_ne_nil _ _

theorem dropLast_separator : (separator delimiter).dropLast = '\n' :: delimiter :=
  List.dropLast_concat

theorem ofText_eq (delimiter text : Text) :
    ofText delimiter text =
      ((Text.splitAll (separator delimiter) text).map Text.trim).filter (· != []) := rfl

theorem ofText_of_not_isInfix {text : Text} (whole : ¬ separator delimiter <:+: text) :
    ofText delimiter text = if Text.trim text = [] then [] else [Text.trim text] := by
  rw [ofText_eq, Text.splitAll_of_none (Text.cut?_eq_none_iff.2 whole)]
  by_cases blank : Text.trim text = [] <;> simp [blank]

theorem ofValue_text (delimiter text : Text) :
    ofValue delimiter (.text text) = .ok (ofText delimiter text) := by
  cases text with
  | nil =>
    have whole : ¬ separator delimiter <:+: [] := by
      rw [List.infix_nil]
      exact separator_ne_nil
    rw [ofText_of_not_isInfix whole]
    rfl
  | cons c text => rfl

/-- A section is part of the text and holds no delimiter line between two others. -/
theorem of_mem_ofText {text piece : Text} (h : piece ∈ ofText delimiter text) :
    piece <:+: text ∧ ¬ separator delimiter <:+: piece := by
  obtain ⟨cut, hcut, rfl⟩ := List.mem_map.1 (List.mem_filter.1 h).1
  obtain ⟨inside, undivided⟩ := Text.of_mem_splitAll separator_ne_nil hcut
  exact ⟨(Text.trim_isInfix cut).trans inside,
    fun divided => undivided (divided.trans (Text.trim_isInfix cut))⟩

/-- Where no line is the delimiter, none is with line feeds around the text. -/
theorem not_infix_of_notMem_lines (free : '\n' ∉ delimiter) {text : Text}
    (whole : delimiter ∉ Text.lines text) : ¬ separator delimiter <:+: '\n' :: text ++ ['\n'] := by
  rintro ⟨front, back, same⟩
  have cut : [] :: (Text.lines text ++ [[]]) =
      Text.lines front ++ delimiter :: Text.lines back := by
    have := congrArg Text.lines same
    rw [separator, List.append_assoc, List.append_assoc, List.cons_append, List.singleton_append,
      Text.lines_append_feed, Text.lines_append_feed, Text.lines_of_notMem free,
      Text.lines_append_feed, ← List.nil_append ('\n' :: text), Text.lines_append_feed] at this
    simpa using this.symm
  obtain ⟨first, before, hfront⟩ := List.exists_cons_of_ne_nil (Text.lines_ne_nil front)
  obtain ⟨after, last, hback⟩ :=
    (List.eq_nil_or_concat (Text.lines back)).resolve_left (Text.lines_ne_nil back)
  have whole' : [] :: Text.lines text ++ [[]] =
      first :: (before ++ delimiter :: after) ++ [last] := by
    rw [List.cons_append, cut, hfront, hback]
    simp
  have inside := (List.cons.inj (List.append_inj' whole' rfl).1).2
  exact whole (inside ▸ List.mem_append_right before List.mem_cons_self)

/-- Before a delimiter line a text without one stays undivided. -/
theorem not_infix_append (free : '\n' ∉ delimiter) {text : Text}
    (whole : delimiter ∉ Text.lines text) : ¬ separator delimiter <:+: text ++ '\n' :: delimiter := by
  have undivided := not_infix_of_notMem_lines free whole
  have regrouped : text ++ '\n' :: delimiter = (text ++ ['\n']) ++ delimiter := by simp
  rw [regrouped, List.infix_append_iff]
  -- across the border the separator would end in the delimiter, which has no line feed
  rintro (early | late | ⟨left, right, cut, before, behind⟩)
  · exact undivided (early.trans (List.suffix_cons _ _).isInfix)
  · exact free (late.subset (by simp [separator]))
  · rcases List.eq_nil_or_concat right with rfl | ⟨others, c, rfl⟩
    · rw [List.append_nil] at cut
      exact undivided (cut ▸ before.isInfix.trans (List.suffix_cons _ _).isInfix)
    · rw [separator, List.concat_eq_append, ← List.append_assoc] at cut
      obtain rfl : '\n' = c := by simpa using (List.append_inj' cut rfl).2
      exact free (behind.subset (by simp))

theorem exists_join_cons (separator : Text) (pieces : List Text) :
    ∃ rest, ∀ p, Text.join separator (p :: pieces) = p ++ rest := by
  cases pieces with
  | nil => exact ⟨[], fun p => by rw [Text.join, List.intercalate_singleton, List.append_nil]⟩
  | cons q pieces =>
    exact ⟨separator ++ Text.join separator (q :: pieces), fun p => by
      rw [Text.join, List.intercalate_cons_cons, List.append_assoc]; rfl⟩

theorem exists_join_concat (separator : Text) (pieces : List Text) :
    ∃ front, ∀ p, Text.join separator (pieces ++ [p]) = front ++ p := by
  induction pieces with
  | nil => exact ⟨[], fun p => by rw [List.nil_append, Text.join, List.intercalate_singleton]; rfl⟩
  | cons q pieces ih =>
    obtain ⟨front, joined⟩ := ih
    refine ⟨q ++ separator ++ front, fun p => ?_⟩
    obtain ⟨next, others, same⟩ := List.exists_cons_of_ne_nil
      (List.append_ne_nil_of_right_ne_nil pieces (List.cons_ne_nil p []))
    rw [List.append_assoc _ front, ← joined, List.cons_append, Text.join, same,
      List.intercalate_cons_cons]
    rfl

/-- Trimming joined texts trims the front of the first and the end of the last. -/
theorem exists_trim_join (separator : Text) {pieces : List Text} (ne : pieces ≠ [])
    (filled : ∀ p ∈ pieces, Text.trim p ≠ []) :
    ∃ front last, Text.trim (Text.join separator pieces) = Text.join separator (front ++ [last]) ∧
      (front ++ [last]).map Text.trim = pieces.map Text.trim ∧
      (∀ x ∈ front, ∃ y ∈ pieces, x <:+ y) ∧ ∃ y ∈ pieces, last <:+: y := by
  obtain ⟨p, pieces, rfl⟩ := List.exists_cons_of_ne_nil ne
  have suffixes : ∀ x ∈ Text.trimStart p :: pieces, ∃ y ∈ p :: pieces, x <:+ y := by
    rintro x (_ | ⟨_, hx⟩)
    · exact ⟨p, List.mem_cons_self, Text.trimStart_isSuffix p⟩
    · exact ⟨x, List.mem_cons_of_mem p hx, List.suffix_refl x⟩
  have trimmed : (Text.trimStart p :: pieces).map Text.trim = (p :: pieces).map Text.trim := by
    rw [List.map_cons, List.map_cons, Text.trim_trimStart]
  -- the first piece and the last are not blank, so trimming goes no further than they do
  have start : Text.trimStart (Text.join separator (p :: pieces)) =
      Text.join separator (Text.trimStart p :: pieces) := by
    obtain ⟨rest, joined⟩ := exists_join_cons separator pieces
    have first : Text.trimStart p ≠ [] := fun none =>
      filled p List.mem_cons_self (by rw [Text.trim, none]; rfl)
    rw [joined, joined, Text.trimStart_append first]
  obtain ⟨front, last, same⟩ := (List.eq_nil_or_concat (Text.trimStart p :: pieces)).resolve_left
    (List.cons_ne_nil _ _)
  rw [List.concat_eq_append] at same
  have lastFilled : Text.trim last ≠ [] := by
    have mem : Text.trim last ∈ (p :: pieces).map Text.trim := by simp [← trimmed, same]
    obtain ⟨y, hy, trimmedAlike⟩ := List.mem_map.1 mem
    exact trimmedAlike ▸ filled y hy
  obtain ⟨others, joined⟩ := exists_join_concat separator front
  refine ⟨front, Text.trimEnd last, ?_, ?_, fun x hx => suffixes x (by simp [same, hx]), ?_⟩
  · have ends : Text.trimEnd last ≠ [] := fun none =>
      lastFilled (by rw [← Text.trim_trimEnd, none]; rfl)
    rw [Text.trim, start, same, joined, joined, Text.trimEnd_append _ ends]
  · rw [← trimmed, same, List.map_append, List.map_append, List.map_singleton, Text.trim_trimEnd,
      List.map_singleton]
  · obtain ⟨y, hy, behind⟩ := suffixes last (by simp [same])
    exact ⟨y, hy, (Text.trimEnd_isPrefix last).isInfix.trans behind.isInfix⟩

/-- Texts without delimiter lines come back as they were joined, also if all but the last lack their
front and the last lacks what stands around a part of it. -/
theorem splitAll_join_parts (free : '\n' ∉ delimiter) {front : List Text} {last : Text}
    (suffixes : ∀ x ∈ front, ∃ y, delimiter ∉ Text.lines y ∧ x <:+ y)
    (part : ∃ y, delimiter ∉ Text.lines y ∧ last <:+: y) :
    Text.splitAll (separator delimiter) (Text.join (separator delimiter) (front ++ [last])) =
      front ++ [last] := by
  apply Text.splitAll_join separator_ne_nil
  · intro x hx divided
    obtain ⟨_, whole, start, rfl⟩ := suffixes x hx
    refine not_infix_append free whole (divided.trans ?_)
    rw [dropLast_separator, List.append_assoc]
    exact (List.suffix_append start _).isInfix
  · intro divided
    obtain ⟨y, whole, inside⟩ := part
    refine not_infix_of_notMem_lines free whole ((divided.trans inside).trans ?_)
    exact ⟨['\n'], ['\n'], rfl⟩

/-- Texts between delimiter lines are the sections of what they make together, whatever blanks
stand around it. -/
theorem ofText_trim_join (free : '\n' ∉ delimiter) {pieces : List Text} (ne : pieces ≠ [])
    (whole : ∀ p ∈ pieces, delimiter ∉ Text.lines p) (filled : ∀ p ∈ pieces, Text.trim p ≠ []) :
    ofText delimiter (Text.trim (Text.join (separator delimiter) pieces)) =
      pieces.map Text.trim := by
  obtain ⟨front, last, joined, trimmed, suffixes, y, hy, part⟩ :=
    exists_trim_join (separator delimiter) ne filled
  rw [ofText_eq, joined, splitAll_join_parts free, trimmed]
  · refine List.filter_eq_self.2 (List.forall_mem_map.2 fun p hp => ?_)
    simpa using filled p hp
  · intro x hx
    obtain ⟨z, hz, behind⟩ := suffixes x hx
    exact ⟨z, whole z hz, behind⟩
  · exact ⟨y, whole y hy, part⟩

/-- Trimmed texts between delimiter lines are the sections of what they make together, and all of
them. -/
theorem ofValue_join (free : '\n' ∉ delimiter) {sections : List Text}
    (filled : ∀ s ∈ sections, s ≠ []) (trimmed : ∀ s ∈ sections, Text.trim s = s)
    (whole : ∀ s ∈ sections, delimiter ∉ Text.lines s) :
    ofValue delimiter (.text (Text.join (separator delimiter) sections)) = .ok sections := by
  rcases List.eq_nil_or_concat sections with rfl | ⟨front, last, rfl⟩
  · rfl
  · rw [List.concat_eq_append] at filled trimmed whole ⊢
    have pieces : Text.splitAll (separator delimiter)
        (Text.join (separator delimiter) (front ++ [last])) = front ++ [last] := by
      apply splitAll_join_parts free
      · exact fun x hx => ⟨x, whole x (List.mem_append_left _ hx), List.suffix_refl x⟩
      · exact ⟨last, whole last List.mem_concat_self, List.infix_rfl⟩
    rw [ofValue_text, ofText_eq, pieces, List.map_congr_left trimmed, List.map_id'']
    · rw [List.filter_eq_self.2]
      intro s hs
      simpa using filled s hs
    · exact fun _ => rfl

/-- The delimiter stands at the start of a line, at the end of one and twice in a row, and all its
characters mean something in a pattern. -/
theorem ofValue_join_inside_lines :
    let delimiter : Text := "+*"
    let sections : List Text := ["one +*\ntwo", "+* three\n\n +*", "+*+*"]
    '\n' ∉ delimiter ∧ (∀ s ∈ sections, s ≠ []) ∧ (∀ s ∈ sections, Text.trim s = s) ∧
      (∀ s ∈ sections, delimiter ∉ Text.lines s) ∧
      ofValue delimiter (.text "one +*\ntwo\n+*\n+* three\n\n +*\n+*\n+*+*") = .ok sections := by
  intro delimiter sections
  have free : '\n' ∉ delimiter := by decide
  have filled : ∀ s ∈ sections, s ≠ [] := by decide
  have trimmed : ∀ s ∈ sections, Text.trim s = s := by decide
  have whole : ∀ s ∈ sections, delimiter ∉ Text.lines s := by decide
  exact ⟨free, filled, trimmed, whole, ofValue_join free filled trimmed whole⟩

/-- Runs of lines with a delimiter line between each two are texts with one between each two. -/
theorem ofLines_intercalate (delimiter : Text) {runs : List (List Text)}
    (ne : ∀ run ∈ runs, run ≠ []) :
    Text.ofLines ([delimiter].intercalate runs) =
      Text.join (separator delimiter) (runs.map Text.ofLines) := by
  induction runs with
  | nil => rfl
  | cons run runs ih =>
    rw [List.forall_mem_cons] at ne
    cases runs with
    | nil =>
      rw [List.intercalate_singleton, List.map_singleton, Text.join, List.intercalate_singleton]
    | cons next runs =>
      have others : [delimiter].intercalate (next :: runs) ≠ [] := by
        obtain ⟨line, lines, rfl⟩ := List.exists_cons_of_ne_nil (ne.2 next List.mem_cons_self)
        cases runs <;> simp [List.intercalate_cons_cons]
      obtain ⟨line, later, same⟩ := List.exists_cons_of_ne_nil others
      rw [List.map_cons] at ih
      rw [List.intercalate_cons_cons, List.append_assoc, Text.ofLines_append ne.1,
        List.singleton_append, Text.afterLine_cons, Text.ofLines_cons, same, Text.afterLine_cons,
        ← same, ih ne.2, List.map_cons, List.map_cons]
      simp [separator, Text.join, List.intercalate_cons_cons]

/-- Runs of lines with a delimiter line between each two are the sections of what they make. -/
theorem ofText_intercalate (free : '\n' ∉ delimiter) {runs : List (List Text)} (ne : runs ≠ [])
    (lines : ∀ run ∈ runs, Text.AreLines run) (whole : ∀ run ∈ runs, delimiter ∉ run)
    (filled : ∀ run ∈ runs, Text.trim (Text.ofLines run) ≠ []) :
    ofText delimiter (Text.trim (Text.ofLines ([delimiter].intercalate runs))) =
      runs.map fun run => Text.trim (Text.ofLines run) := by
  have runsNe : ∀ run ∈ runs, run ≠ [] := by
    rintro run hr rfl
    exact filled [] hr rfl
  rw [ofLines_intercalate delimiter runsNe, ofText_trim_join free (by simpa using ne), List.map_map]
  · rfl
  · refine List.forall_mem_map.2 fun run hr => ?_
    rw [Text.lines_ofLines (lines run hr) (runsNe run hr)]
    exact whole run hr
  · exact List.forall_mem_map.2 filled

end PageDirectives.Section
