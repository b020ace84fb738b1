import PageDirectives.Proofs.Markup.Lines
/-!
What one step of the lexer reads. Inside a line it stays in its state and its tokens spell what it
takes. At the front of a line that opens a directive it reads the mark and the name, and only the
terminator takes more than its tokens spell: the spaces behind it, up to the end of its line.
-/
namespace PageDirectives.Lexer

/-- The mark of a directive as a token. -/
def markToken : Token := ⟨.punctuation, Directive.mark⟩

/-- A step inside a line, which stays in its state and loses nothing. -/
structure Step.Stays (state : State) (text : Text) (step : Step) : Prop where
  next : step.next = state
  size : step.size = (spelled step.tokens).length
  pos : spelled step.tokens ≠ []
  line : ∃ rest, text = spelled step.tokens ++ rest ∧
    state.line text = spelled step.tokens ++ state.line rest
  ends : Search.lineStartAfter (spelled step.tokens) = false
  unmarked : markToken ∉ step.tokens

theorem Step.Within.stays {state : State} (outside : state ≠ .body) {text : Text} {step : Step}
    (within : step.Within state text) : step.Stays state text where
  next := within.next
  size := within.size
  pos := within.pos
  line := by
    obtain ⟨rest, cut⟩ := within.front
    refine ⟨rest, cut.symm, ?_⟩
    have whole := firstLine_append_of_free within.free rest
    rw [cut] at whole
    cases state with
    | body => exact absurd rfl outside
    | args => exact whole
    | condition => exact whole
  ends := Search.lineStartAfter_of_free within.free
  unmarked mem := within.plain markToken mem rfl

/-- A single token of running text that does not begin a comment. -/
theorem stays_single {kind : TokenKind} {piece text : Text} {step : Step}
    (read : single kind .body piece = some step) (free : '\n' ∉ piece)
    (other : markToken ≠ ⟨kind, piece⟩)
    (line : ∃ rest, text = piece ++ rest ∧ running text = piece ++ running rest) :
    step.Stays .body text := by
  obtain ⟨ne, rfl⟩ := single_eq_some_iff.1 read
  refine ⟨rfl, by simp, by simpa, by simpa [State.line] using line, ?_, ?_⟩
  · simpa using Search.lineStartAfter_of_free free
  · exact fun mem => other (List.mem_singleton.1 mem)

theorem stays_comment {flag : Bool} {text : Text} {step : Step}
    (read : comment flag text = some step) : step.Stays .body text := by
  rw [comment_eq] at read
  obtain ⟨piece, found, single⟩ := Option.bind_eq_some_iff.1 read
  obtain ⟨body, rest, same, rfl⟩ := exists_of_commentText? found
  obtain ⟨ne, rfl⟩ := single_eq_some_iff.1 single
  refine ⟨rfl, by simp, by simpa, ⟨rest, by simp, ?_⟩, ?_, by simp [markToken]⟩
  · simpa [State.line] using running_comment found
  · rw [spelled_cons, spelled_nil, List.append_nil, same, Search.lineStartAfter,
      List.getLast?_append]
    rfl

/-- The rules for the name of a directive. -/
def nameRules : List Rule :=
  [terminator, conditional, directive .decorator .args (completeName? generatorNames),
    directive .declaration .args (completeName? layoutNames), directive .tag .args anyName?]

/-- The rules of running text for what is neither a comment nor the name of a directive. -/
def plainRules : List Rule :=
  [delimiter, run .text .body (fun c => c != '\n' && c != '%'), lineFeed, anyChar]

theorem bodyRules_eq : bodyRules = comment :: (nameRules ++ plainRules) := rfl

theorem newline_notMem_firstLine (text : Text) : '\n' ∉ Text.firstLine text :=
  Text.notMem_takeWhile (by decide) text

theorem firstLine_append_drop (text : Text) :
    Text.firstLine text ++ text.dropWhile (· != '\n') = text := List.takeWhile_append_dropWhile

theorem stays_delimiter {flag : Bool} {text : Text} {step : Step}
    (read : delimiter flag text = some step) : step.Stays .body text := by
  cases flag with
  | false => exact nomatch read
  | true =>
    obtain ⟨behind, dashes, read⟩ := Option.bind_eq_some_iff.1 read
    obtain rfl := Text.after?_eq_some dashes
    split at read
    · next blank =>
      have whole : Text.firstLine ("---" ++ behind) = "---" ++ Text.firstLine behind :=
        firstLine_append_of_free (by decide) behind
      have bare : '%' ∉ Text.firstLine ("---" ++ behind) := by
        have spaces : '%' ∉ Text.firstLine behind := fun mem =>
          absurd (List.all_eq_true.1 blank '%' mem) (by decide)
        rw [whole, List.mem_append, not_or]
        exact ⟨by decide, spaces⟩
      have free := newline_notMem_firstLine ("---" ++ behind)
      have cut := firstLine_append_drop ("---" ++ behind)
      refine stays_single read free ?_ ⟨_, cut.symm, ?_⟩
      · intro same
        rw [whole] at same
        exact absurd (List.cons.inj (congrArg Token.text same)).1 (by decide)
      · conv => lhs; rw [← cut]
        exact running_append free bare _
    · exact nomatch read

theorem stays_run {flag : Bool} {text : Text} {step : Step}
    (read : run .text .body (fun c => c != '\n' && c != '%') flag text = some step) :
    step.Stays .body text := by
  have free : '\n' ∉ text.takeWhile (fun c => c != '\n' && c != '%') :=
    Text.notMem_takeWhile (by decide) text
  have bare : '%' ∉ text.takeWhile (fun c => c != '\n' && c != '%') :=
    Text.notMem_takeWhile (by decide) text
  have cut : text.takeWhile (fun c => c != '\n' && c != '%') ++ text.dropWhile _ = text :=
    List.takeWhile_append_dropWhile
  refine stays_single read free (by simp [markToken]) ⟨_, cut.symm, ?_⟩
  conv => lhs; rw [← cut]
  exact running_append free bare _

theorem stays_anyChar {c : Char} (inside : c ≠ '\n') {text : Text}
    (none : commentText? (c :: text) = none) {flag : Bool} {step : Step}
    (read : anyChar flag (c :: text) = some step) : step.Stays .body (c :: text) :=
  stays_single read (by simpa using Ne.symm inside) (by simp [markToken])
    ⟨text, rfl, running_cons inside none⟩

/-- What is neither a comment nor the name of a directive is read inside its line. -/
theorem exists_plain_step {c : Char} (inside : c ≠ '\n') {text : Text}
    (none : commentText? (c :: text) = none) (flag : Bool) :
    ∃ step, (plainRules.findSome? fun rule => rule flag (c :: text)) = some step ∧
      step.Stays .body (c :: text) := by
  have some : (plainRules.findSome? fun rule => rule flag (c :: text)).isSome := by
    rw [List.findSome?_isSome_iff]
    exact ⟨anyChar, by simp [plainRules], rfl⟩
  obtain ⟨step, read⟩ := Option.isSome_iff_exists.1 some
  refine ⟨step, read, ?_⟩
  obtain ⟨rule, among, read⟩ := List.exists_of_findSome?_eq_some read
  simp only [plainRules, List.mem_cons, List.not_mem_nil, or_false] at among
  rcases among with rfl | rfl | rfl | rfl
  · exact stays_delimiter read
  · exact stays_run read
  · simp [lineFeed_of_ne inside] at read
  · exact stays_anyChar inside none read

/-- The kinds of token for the names of directives. -/
def nameKinds : List TokenKind := [.keyword, .declaration, .decorator, .tag]

/-- Tokens that begin with a mark and the name of a directive, and hold no other mark. -/
def OpensWith (name : Text) (tokens : List Token) : Prop :=
  ∃ kind ∈ nameKinds, ∃ rest, tokens = markToken :: ⟨kind, name⟩ :: rest ∧ markToken ∉ rest

/-- A step that reads the mark and the name at the front of a text and goes on in the same line. -/
structure Step.Names (text name : Text) (step : Step) : Prop where
  next : step.next ≠ .body
  size : step.size = (spelled step.tokens).length
  front : spelled step.tokens <+: text
  free : '\n' ∉ spelled step.tokens
  tokens : OpensWith name step.tokens

theorem directive_eq_some_iff {kind : TokenKind} {next : State} {word : Text → Option Text}
    {flag : Bool} {text : Text} {step : Step} :
    directive kind next word flag text = some step ↔ flag = true ∧ ∃ rest name,
      text = Directive.mark ++ rest ∧ word rest = some name ∧
        step = ⟨[markToken, ⟨kind, name⟩], next, Directive.mark.length + name.length⟩ := by
  cases flag with
  | false => simp [directive]
  | true =>
    constructor
    · intro read
      obtain ⟨rest, marked, read⟩ := Option.bind_eq_some_iff.1 read
      obtain ⟨name, named, same⟩ := Option.bind_eq_some_iff.1 read
      exact ⟨rfl, rest, name, Text.after?_eq_some marked, named, (Option.some.inj same).symm⟩
    · rintro ⟨-, rest, name, rfl, named, rfl⟩
      simp [directive, Text.after?_append, named, markToken]

theorem names_directive {kind : TokenKind} {next : State} {word : Text → Option Text} {flag : Bool}
    {text : Text} {step : Step} (read : directive kind next word flag text = some step)
    (among : kind ∈ nameKinds) (outside : next ≠ .body)
    (reads : ∀ {rest name}, word rest = some name → anyName? rest = some name) :
    flag = true ∧ ∃ name, openedName? text = some name ∧ step.Names text name := by
  obtain ⟨start, rest, name, rfl, named, rfl⟩ := directive_eq_some_iff.1 read
  have named := reads named
  refine ⟨start, name, ?_, outside, ?_, ?_, ?_, kind, among, [], rfl, List.not_mem_nil⟩
  · rw [openedName?, Text.after?_append, Option.bind_some, named]
  · simp [markToken]
  · obtain ⟨behind, rfl⟩ := prefix_of_anyName? named
    exact ⟨behind, by simp [markToken]⟩
  · have free := newline_notMem_anyName? named
    simp [markToken, Directive.mark, free]

theorem anyName?_append {name rest : Text} (valid : Text.isName name = true)
    (ends : Directive.nameEnds rest = true) : anyName? (name ++ rest) = some name := by
  have whole := Directive.takeWhile_isNameChar_append valid ends
  cases name with
  | nil => exact nomatch valid
  | cons c name =>
    rw [Text.isName, Bool.and_eq_true] at valid
    rw [List.cons_append, List.takeWhile_cons,
      if_pos (Text.isNameChar_of_isNameStart valid.1)] at whole
    rw [List.cons_append, anyName?, if_pos valid.1, whole]

theorem anyName?_of_completeName? {names : List Text}
    (valid : ∀ name ∈ names, Text.isName name = true) {text name : Text}
    (h : completeName? names text = some name) : anyName? text = some name := by
  have among := List.mem_of_find?_eq_some h
  have complete := List.find?_some h
  split at complete
  · next rest read =>
    rw [Text.after?_eq_some read]
    exact anyName?_append (valid name among) complete
  · exact nomatch complete

theorem isNameChar_of_isSpace {c : Char} (space : isSpace c = true) :
    Text.isNameChar c = false := by
  rw [isSpace, Bool.or_eq_true, beq_iff_eq, beq_iff_eq] at space
  rcases space with rfl | rfl <;> decide

theorem nameEnds_of_spaces {text : Text} (some : text.takeWhile isSpace ≠ []) :
    Directive.nameEnds text = true := by
  cases text with
  | nil => rfl
  | cons c text =>
    rw [Directive.nameEnds, Bool.not_eq_true']
    refine isNameChar_of_isSpace ?_
    by_contra solid
    rw [List.takeWhile_cons, if_neg solid] at some
    exact some rfl

theorem names_conditional {flag : Bool} {text : Text} {step : Step}
    (read : conditional flag text = some step) :
    flag = true ∧ ∃ name, openedName? text = some name ∧ step.Names text name := by
  obtain ⟨first, opened, read⟩ := Option.bind_eq_some_iff.1 read
  obtain ⟨start, rest, name, rfl, named, rfl⟩ := directive_eq_some_iff.1 opened
  obtain ⟨behind, worded, rfl⟩ := Option.map_eq_some_iff.1 named
  obtain rfl := Text.after?_eq_some worded
  have size : Directive.mark.length + conditionWord.length =
      (Directive.mark ++ conditionWord).length := rfl
  simp only [size, ← List.append_assoc, List.drop_left] at read
  split at read
  · exact nomatch read
  · next some =>
    obtain rfl := (Option.some.inj read).symm
    have ends : Directive.nameEnds behind = true := nameEnds_of_spaces some
    have spaceFree : '\n' ∉ behind.takeWhile isSpace := Text.notMem_takeWhile (by decide) behind
    refine ⟨start, conditionWord, ?_, nofun, ?_, ?_, ?_, .keyword, by decide, _, rfl, ?_⟩
    · rw [openedName?, Text.after?_append, Option.bind_some]
      exact anyName?_append (by decide) ends
    · simp [markToken, Nat.add_assoc]
    · obtain ⟨more, cut⟩ := List.takeWhile_prefix (l := behind) isSpace
      refine ⟨more, ?_⟩
      conv => rhs; rw [← cut]
      simp [markToken]
    · simp [markToken, Directive.mark, conditionWord, spaceFree]
    · simp [markToken]

theorem terminator_eq_some_iff {flag : Bool} {text : Text} {step : Step} :
    terminator flag text = some step ↔ flag = true ∧ ∃ behind,
      text = Directive.mark ++ Directive.terminator ++ behind ∧
        (Text.firstLine behind).all isSpace = true ∧
          step = ⟨[markToken, ⟨.keyword, Directive.terminator⟩], .body,
            (Text.firstLine text).length⟩ := by
  constructor
  · intro read
    obtain ⟨first, opened, same⟩ := Option.bind_eq_some_iff.1 read
    obtain ⟨start, rest, name, rfl, named, rfl⟩ := directive_eq_some_iff.1 opened
    obtain ⟨behind, worded, chosen⟩ := Option.bind_eq_some_iff.1 named
    obtain rfl := Text.after?_eq_some worded
    split at chosen
    · next blank =>
      obtain rfl := Option.some.inj chosen
      exact ⟨start, behind, (List.append_assoc _ _ _).symm, blank, (Option.some.inj same).symm⟩
    · exact nomatch chosen
  · rintro ⟨rfl, behind, rfl, blank, rfl⟩
    refine Option.bind_eq_some_iff.2
      ⟨_, directive_eq_some_iff.2 ⟨rfl, _, _, List.append_assoc _ _ _, ?_, rfl⟩, rfl⟩
    rw [Text.after?_append, Option.bind_some, if_pos]
    exact blank

theorem openedName?_terminator {behind : Text}
    (blank : (Text.firstLine behind).all isSpace = true) :
    openedName? (Directive.mark ++ Directive.terminator ++ behind) = some Directive.terminator := by
  have ends : Directive.nameEnds behind = true := by
    cases behind with
    | nil => rfl
    | cons c behind =>
      rw [Directive.nameEnds, Bool.not_eq_true']
      by_cases feed : c = '\n'
      · rw [feed]
        decide
      · rw [Text.firstLine, List.takeWhile_cons, if_pos (bne_iff_ne.2 feed), List.all_cons,
          Bool.and_eq_true] at blank
        exact isNameChar_of_isSpace blank.1
  rw [openedName?, List.append_assoc, Text.after?_append, Option.bind_some]
  exact anyName?_append (by decide) ends

/-- The rules for names read at the front of a line that opens a directive, and nowhere else. -/
theorem opened_of_mem_nameRules {rule : Rule} (among : rule ∈ nameRules) {flag : Bool} {text : Text}
    {step : Step} (read : rule flag text = some step) :
    flag = true ∧ ∃ name, openedName? text = some name ∧
      (terminator flag text = some step ∨ step.Names text name) := by
  have words : ∀ names ∈ [generatorNames, layoutNames], ∀ name ∈ names,
      Text.isName name = true := by decide
  -- all rules but the one for the terminator go on in the same line
  have other (names : flag = true ∧ ∃ name, openedName? text = some name ∧ step.Names text name) :
      flag = true ∧ ∃ name, openedName? text = some name ∧
        (terminator flag text = some step ∨ step.Names text name) :=
    names.imp_right fun ⟨name, opened, names⟩ => ⟨name, opened, .inr names⟩
  simp only [nameRules, List.mem_cons, List.not_mem_nil, or_false] at among
  rcases among with rfl | rfl | rfl | rfl | rfl
  · obtain ⟨start, behind, rfl, blank, -⟩ := terminator_eq_some_iff.1 read
    exact ⟨start, _, openedName?_terminator blank, .inl read⟩
  · exact other (names_conditional read)
  · exact other (names_directive read (by decide) nofun
      (anyName?_of_completeName? (words _ List.mem_cons_self)))
  · exact other (names_directive read (by decide) nofun
      (anyName?_of_completeName? (words _ (List.mem_cons_of_mem _ List.mem_cons_self))))
  · exact other (names_directive read (by decide) nofun id)

theorem nameRules_eq_none {flag : Bool} {text : Text}
    (unopened : flag = true → openedName? text = none) :
    (nameRules.findSome? fun rule => rule flag text) = none := by
  refine List.findSome?_eq_none_iff.2 fun rule among => ?_
  cases read : rule flag text with
  | none => rfl
  | some step =>
    obtain ⟨start, name, opened, -⟩ := opened_of_mem_nameRules among read
    exact nomatch (unopened start).symm.trans opened

/-- Running text that opens no directive is read without loss. -/
theorem exists_body_step {c : Char} (inside : c ≠ '\n') {text : Text} {flag : Bool}
    (unopened : flag = true → openedName? (c :: text) = none) :
    ∃ step, (bodyRules.findSome? fun rule => rule flag (c :: text)) = some step ∧
      step.Stays .body (c :: text) := by
  rw [bodyRules_eq, List.findSome?_cons]
  cases commented : comment flag (c :: text) with
  | some step => exact ⟨step, rfl, stays_comment commented⟩
  | none =>
    have none : commentText? (c :: text) = none := by
      rw [comment_eq] at commented
      cases found : commentText? (c :: text) with
      | none => rfl
      | some piece =>
        obtain ⟨body, -, rfl, -⟩ := exists_of_commentText? found
        simp [found, single] at commented
    rw [List.findSome?_append, nameRules_eq_none unopened]
    exact exists_plain_step inside none flag

/-- A directive that a line opens is read: if its name is not the terminator alone on its line, the
step loses nothing. -/
theorem exists_name_step {text name : Text} (opened : openedName? text = some name) :
    ∃ step, (bodyRules.findSome? fun rule => rule true text) = some step ∧
      (terminator true text = some step ∨ terminator true text = none ∧ step.Names text name) := by
  obtain ⟨c, rest, rfl, start, rfl⟩ := openedName?_eq_some_iff.1 opened
  have uncommented : comment true (Directive.mark ++ c :: rest) = none := rfl
  -- the last of the rules reads any name, so one of them reads this one
  have tagged : (directive .tag .args anyName? true (Directive.mark ++ c :: rest)).isSome := by
    rw [Option.isSome_iff_exists]
    exact ⟨_, directive_eq_some_iff.2 ⟨rfl, _, _, rfl, if_pos start, rfl⟩⟩
  have named :
      (nameRules.findSome? fun rule => rule true (Directive.mark ++ c :: rest)).isSome := by
    rw [List.findSome?_isSome_iff]
    exact ⟨_, by simp [nameRules], tagged⟩
  obtain ⟨step, read⟩ := Option.isSome_iff_exists.1 named
  refine ⟨step, ?_, ?_⟩
  · rw [bodyRules_eq, List.findSome?_cons, uncommented, List.findSome?_append, read]
    rfl
  · cases closed : terminator true (Directive.mark ++ c :: rest) with
    | some closing =>
      rw [nameRules, List.findSome?_cons, closed] at read
      exact .inl read
    | none =>
      obtain ⟨rule, among, reads⟩ := List.exists_of_findSome?_eq_some read
      obtain ⟨-, name, opened', closing | names⟩ := opened_of_mem_nameRules among reads
      · exact nomatch closed.symm.trans closing
      · obtain rfl := Option.some.inj (opened.symm.trans opened')
        exact .inr ⟨rfl, names⟩

/-- The first step of a line that opens a directive: it takes a piece of the line, and what its
tokens spell is kept of that piece. -/
structure Step.Opens (text name : Text) (step : Step) : Prop where
  tokens : OpensWith name step.tokens
  line : ∃ taken rest, text = taken ++ rest ∧ step.size = taken.length ∧ taken ≠ [] ∧
    '\n' ∉ taken ∧ Text.firstLine text = taken ++ step.next.line rest ∧
      kept (Text.firstLine text) = spelled step.tokens ++ step.next.line rest

theorem opens_terminator {text name : Text} {step : Step} (opened : openedName? text = some name)
    (read : terminator true text = some step) : step.Opens text name := by
  obtain ⟨-, behind, rfl, blank, rfl⟩ := terminator_eq_some_iff.1 read
  obtain rfl := Option.some.inj ((openedName?_terminator blank).symm.trans opened)
  have whole : Text.firstLine (Directive.mark ++ Directive.terminator ++ behind) =
      Directive.mark ++ Directive.terminator ++ Text.firstLine behind :=
    firstLine_append_of_free (by decide) behind
  -- the step takes the whole line, so nothing of it is left
  have nothing : running ((Directive.mark ++ Directive.terminator ++ behind).dropWhile
      (· != '\n')) = [] := by
    cases rest : (Directive.mark ++ Directive.terminator ++ behind).dropWhile (· != '\n') with
    | nil => exact running_nil
    | cons c rest =>
      have stop := List.head?_dropWhile_not (· != '\n')
        (Directive.mark ++ Directive.terminator ++ behind)
      rw [rest] at stop
      have feed : c = '\n' := by simpa using stop
      rw [feed, running_feed]
  refine ⟨⟨.keyword, by decide, [], rfl, List.not_mem_nil⟩, _, _,
    (firstLine_append_drop _).symm, rfl, ?_, newline_notMem_firstLine _, ?_, ?_⟩
  · rw [whole]
    exact nofun
  · rw [State.line, nothing, List.append_nil]
  · rw [whole, kept_closing blank, State.line, nothing, List.append_nil]
    rfl

theorem kept_firstLine {text : Text} (other : terminator true text = none) :
    kept (Text.firstLine text) = Text.firstLine text := by
  refine kept_of_not_closing fun spaces same => Bool.eq_false_iff.2 fun blank => ?_
  have cut := firstLine_append_drop text
  generalize text.dropWhile (· != '\n') = rest at cut
  rw [same, List.append_assoc] at cut
  subst cut
  have free : '\n' ∉ Directive.mark ++ Directive.terminator := by decide
  have whole := firstLine_append_of_free free (spaces ++ rest)
  have spaced : Text.firstLine (spaces ++ rest) = spaces :=
    List.append_cancel_left (whole.symm.trans same)
  have closing := terminator_eq_some_iff.2 ⟨rfl, spaces ++ rest, rfl, by rwa [spaced], rfl⟩
  exact nomatch other.symm.trans closing

theorem Step.Names.opens {text name : Text} {step : Step} (names : step.Names text name)
    (other : terminator true text = none) : step.Opens text name := by
  obtain ⟨rest, cut⟩ := names.front
  have whole := firstLine_append_of_free names.free rest
  have line : Text.firstLine text = spelled step.tokens ++ step.next.line rest := by
    rw [← cut, whole]
    cases next : step.next with
    | body => exact absurd next names.next
    | args => rfl
    | condition => rfl
  refine ⟨names.tokens, _, rest, cut.symm, names.size, ?_, names.free, line, ?_⟩
  · obtain ⟨kind, -, extra, same, -⟩ := names.tokens
    rw [same, spelled_cons]
    exact nofun
  · rw [kept_firstLine other, line]

/-- A line that opens a directive begins with a step that reads its mark and its name. -/
theorem exists_opening_step {text name : Text} (opened : openedName? text = some name) :
    ∃ step, (bodyRules.findSome? fun rule => rule true text) = some step ∧
      step.Opens text name := by
  obtain ⟨step, read, closing | ⟨other, names⟩⟩ := exists_name_step opened
  · exact ⟨step, read, opens_terminator opened closing⟩
  · exact ⟨step, read, names.opens other⟩

end PageDirectives.Lexer
