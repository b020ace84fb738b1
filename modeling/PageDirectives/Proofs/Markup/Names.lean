import PageDirectives.Proofs.Directive.Leftover
import PageDirectives.Proofs.Markup.Readings
/-!
The names of directives, as the lexer reads them and as the search for leftovers does. A mark is
read in running text at the front of a line that opens a directive, and nowhere else; without
comments it is read at every such line, with the name that the search for leftovers finds there.
-/
namespace PageDirectives.Lexer

/-- No mark is read in front of the lines. -/
theorem ReadsLines.le_start_of_mark {offset : Nat} {lines : List Text} {rs : List Reading}
    (reads : ReadsLines offset lines rs) {reading : Reading} (among : reading ∈ rs)
    (marked : reading.token = markToken) : offset ≤ reading.start := by
  obtain ⟨-, before, line, later, -, start, -⟩ := reads.of_mark among marked
  rw [start]
  exact Nat.le_add_right _ _

theorem ReadsLine.filter_marks {offset : Nat} {line : Text} {rs : List Reading}
    (read : ReadsLine offset line rs) :
    rs.filter (·.token = markToken) =
      if (openedName? line).isSome then [⟨.body, offset, markToken⟩] else [] := by
  have none {rs : List Reading} (unmarked : Unmarked rs) : rs.filter (·.token = markToken) = [] :=
    List.filter_eq_nil_iff.2 fun reading among => by simpa using unmarked reading among
  cases opened : openedName? line with
  | none => exact none (read.plain opened)
  | some name =>
    obtain ⟨kind, kinds, rest, rfl, unmarked⟩ := read.opens name opened
    have other : (⟨kind, name⟩ : Token) ≠ markToken := by
      intro same
      obtain rfl : kind = .punctuation := congrArg Token.kind same
      exact absurd kinds (by decide)
    simp [other, none unmarked]

/-- Each mark is read behind the marks before it, so a line has one mark at most. -/
theorem ReadsLines.pairwise_marks {offset : Nat} {lines : List Text} {rs : List Reading}
    (reads : ReadsLines offset lines rs) :
    (rs.filter (·.token = markToken)).Pairwise fun first second => first.start < second.start := by
  induction reads with
  | last read =>
    rw [read.filter_marks]
    split <;> simp
  | @feed offset line later rs behind state read others ih =>
    have own : ((⟨state, offset + line.length, feedToken⟩ :: behind).filter
        (·.token = markToken)) = behind.filter (·.token = markToken) :=
      List.filter_cons_of_neg (by simp [feedToken, markToken])
    rw [List.filter_append, read.filter_marks, own]
    split
    · refine List.pairwise_cons.2 ⟨fun reading among => ?_, ih⟩
      obtain ⟨among, marked⟩ := List.mem_filter.1 among
      have := others.le_start_of_mark among (of_decide_eq_true marked)
      dsimp only
      omega
    · exact ih

/-- Without comments every line that opens a directive is read with its name. -/
theorem exists_names_of_lineAt {text line name : Text} {offset : Nat}
    (free : ¬ (['%', '%'] : Text) <:+: text) (stands : Text.LineAt text offset line)
    (opened : openedName? line = some name) :
    ∃ kind ∈ nameKinds, ∃ above below, readingsFrom .body true 0 text =
      above ++ ⟨.body, offset, markToken⟩ ::
        ⟨.body, offset + Directive.mark.length, ⟨kind, name⟩⟩ :: below := by
  obtain ⟨before, later, cut, rfl⟩ := stands
  have reads := readsLines_markupLines 0 text
  rw [markupLines_eq_lines free, cut] at reads
  obtain ⟨above, own, below, same, read⟩ := reads.exists_readsLine
  obtain ⟨kind, kinds, rest, rfl, -⟩ := read.opens name opened
  rw [Nat.zero_add] at same
  exact ⟨kind, kinds, above, rest ++ below, by simpa using same⟩

theorem mem_all_leftoverName {text line name : Text} {offset : Nat}
    (stands : Text.LineAt text offset line) (shown : Directive.shownName? line = some name) :
    ⟨offset, offset + (Directive.mark.length + name.length), name⟩ ∈
      Search.all Directive.leftoverName text := by
  obtain ⟨before, later, cut, rfl⟩ := stands
  have found := Directive.mem_allFrom_leftoverName 0 (cut ▸ Text.areLines_lines text) shown
  rwa [← cut, Text.ofLines_lines, Nat.zero_add] at found

/-- A line that opens a directive shows its name. -/
theorem shownName?_of_openedName? {line name : Text} (opened : openedName? line = some name) :
    Directive.shownName? line = some name := by
  obtain ⟨c, rest, rfl, start, rfl⟩ := openedName?_eq_some_iff.1 opened
  rw [Directive.shownName?, Text.after?_append, Option.map_some, Option.filter_some, if_pos]
  rw [List.takeWhile_cons, if_pos (Text.isNameChar_of_isNameStart start)]
  rfl

/-- The lexer and the search for leftovers name the same directives. A mark is read in running text,
at the front of a line that opens a directive and once there. Without comments it is read at every
such line, and behind it in one token the longest run of characters of names, which is the name that
the search finds at that line. -/
theorem readings_name_directives (source : Text) :
    (readings source).map (·.token) = tokens source ∧
    (∀ reading ∈ readings source, reading.token = markToken → reading.state = .body ∧
      ∃ c rest, Text.LineAt (normalise source) reading.start (Directive.mark ++ c :: rest) ∧
        Text.isNameStart c = true) ∧
    ((readings source).filter (·.token = markToken)).Pairwise
      (fun first second => first.start < second.start) ∧
    (¬ (['%', '%'] : Text) <:+: normalise source → ∀ offset c rest,
      Text.LineAt (normalise source) offset (Directive.mark ++ c :: rest) →
        Text.isNameStart c = true → ∃ name, name = (c :: rest).takeWhile Text.isNameChar ∧
          (∃ kind ∈ nameKinds, ∃ above below, readings source =
            above ++ ⟨.body, offset, markToken⟩ ::
              ⟨.body, offset + Directive.mark.length, ⟨kind, name⟩⟩ :: below) ∧
          ⟨offset, offset + (Directive.mark.length + name.length), name⟩ ∈
            Search.all Directive.leftoverName (normalise source)) := by
  have reads := readsLines_markupLines 0 (normalise source)
  refine ⟨map_token_readings source, ?_, reads.pairwise_marks, ?_⟩
  · intro reading among marked
    obtain ⟨state, before, line, later, cut, start, opened⟩ := reads.of_mark among marked
    have free : '\n' ∉ line :=
      newline_notMem_of_openedName? (cut ▸ List.mem_append_right _ List.mem_cons_self) opened
    obtain ⟨name, named⟩ := Option.isSome_iff_exists.1 opened
    obtain ⟨c, rest, rfl, begins, -⟩ := openedName?_eq_some_iff.1 named
    rw [start, Nat.zero_add]
    exact ⟨state, c, rest, lineAt_of_markupLines cut free, begins⟩
  · intro free offset c rest stands begins
    have opened := openedName?_eq_some_iff.2 ⟨c, rest, rfl, begins, rfl⟩
    exact ⟨_, rfl, exists_names_of_lineAt free stands opened,
      mem_all_leftoverName stands (shownName?_of_openedName? opened)⟩

/-- A quote that is not closed above a directive does not keep its name from being read. -/
theorem readings_name_directives_below_open_quote :
    ¬ (['%', '%'] : Text) <:+: normalise "::note \"a +\n::cards-x 2" ∧
      Text.LineAt (normalise "::note \"a +\n::cards-x 2") 12
        (Directive.mark ++ 'c' :: "ards-x 2") ∧ Text.isNameStart 'c' = true ∧
      (∃ kind ∈ nameKinds, ∃ above below, readings "::note \"a +\n::cards-x 2" =
        above ++ ⟨.body, 12, markToken⟩ :: ⟨.body, 14, ⟨kind, "cards-x"⟩⟩ :: below) ∧
      ⟨12, 21, "cards-x"⟩ ∈
        Search.all Directive.leftoverName (normalise "::note \"a +\n::cards-x 2") := by
  have free : ¬ (['%', '%'] : Text) <:+: normalise "::note \"a +\n::cards-x 2" :=
    Text.cut?_eq_none_iff.1 (by decide)
  have stands : Text.LineAt (normalise "::note \"a +\n::cards-x 2") 12
      (Directive.mark ++ 'c' :: "ards-x 2") :=
    ⟨["::note \"a +"], [""], by decide, by decide⟩
  have begins : Text.isNameStart 'c' = true := by decide
  obtain ⟨name, rfl, read, found⟩ :=
    (readings_name_directives "::note \"a +\n::cards-x 2").2.2.2 free 12 'c' _ stands begins
  exact ⟨free, stands, begins, read, found⟩

end PageDirectives.Lexer
