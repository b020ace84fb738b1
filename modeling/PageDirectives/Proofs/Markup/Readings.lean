import PageDirectives.Proofs.Markup.Steps
/-!
Readings: the tokens of the lexer, each with the offset at which it is read and the state in which
it is. A run of the lexer goes from line to line of the markup. Whatever stands in a line, behind its
line feed the lexer is back in running text, a mark is read only at the front of a line that opens a
directive, and all of the line is kept but the spaces behind a terminator.
-/
namespace PageDirectives.Lexer

/-- A token, the offset at which it is read, and the state in which it is. -/
structure Reading where
  state : State
  start : Nat
  token : Token
  deriving Repr, DecidableEq

/-- The tokens of one step, one behind the other. -/
def place (state : State) (offset : Nat) : List Token → List Reading
  | [] => []
  | token :: tokens => ⟨state, offset, token⟩ :: place state (offset + token.text.length) tokens

/-- The readings of the rest of a text that begins at an offset. -/
def readingsFrom (state : State) (lineStart : Bool) (offset : Nat) : Text → List Reading
  | [] => []
  | c :: text =>
    match state.rules.findSome? fun rule => rule lineStart (c :: text) with
    | none => ⟨state, offset, ⟨.error, [c]⟩⟩ :: readingsFrom state (c == '\n') (offset + 1) text
    | some step =>
      place state offset step.tokens ++ readingsFrom step.next
        (Search.lineStartAfter (c :: text.take (step.size - 1))) (offset + 1 + (step.size - 1))
        (text.drop (step.size - 1))
termination_by text => text.length

/-- The readings of a source. -/
def readings (source : Text) : List Reading := readingsFrom .body true 0 (normalise source)

@[simp] theorem map_token_place (state : State) (offset : Nat) (tokens : List Token) :
    (place state offset tokens).map (·.token) = tokens := by
  induction tokens generalizing offset with
  | nil => rfl
  | cons token tokens ih => rw [place, List.map_cons, ih]

theorem map_token_readingsFrom (state : State) (lineStart : Bool) (offset : Nat) (text : Text) :
    (readingsFrom state lineStart offset text).map (·.token) = tokensFrom state lineStart text := by
  fun_induction readingsFrom state lineStart offset text with
  | case1 => rw [tokensFrom]; rfl
  | case2 state lineStart offset c text none ih => rw [tokensFrom, none, List.map_cons, ih]
  | case3 state lineStart offset c text step some ih =>
    rw [tokensFrom, some, List.map_append, map_token_place, ih]

/-- The tokens of a source are those of its readings. -/
theorem map_token_readings (source : Text) : (readings source).map (·.token) = tokens source :=
  map_token_readingsFrom _ _ _ _

/-- What readings spell. -/
def written (readings : List Reading) : Text := spelled (readings.map (·.token))

@[simp] theorem written_nil : written [] = [] := rfl

@[simp] theorem written_cons (reading : Reading) (readings : List Reading) :
    written (reading :: readings) = reading.token.text ++ written readings := by simp [written]

@[simp] theorem written_append (first second : List Reading) :
    written (first ++ second) = written first ++ written second := by simp [written]

@[simp] theorem written_place (state : State) (offset : Nat) (tokens : List Token) :
    written (place state offset tokens) = spelled tokens := by simp [written]

/-- Readings none of which is a mark. -/
def Unmarked (readings : List Reading) : Prop := ∀ reading ∈ readings, reading.token ≠ markToken

@[simp] theorem unmarked_nil : Unmarked [] := by simp [Unmarked]

@[simp] theorem unmarked_cons {reading : Reading} {readings : List Reading} :
    Unmarked (reading :: readings) ↔ reading.token ≠ markToken ∧ Unmarked readings := by
  simp [Unmarked]

@[simp] theorem unmarked_append {first second : List Reading} :
    Unmarked (first ++ second) ↔ Unmarked first ∧ Unmarked second := by
  simp [Unmarked, or_imp, forall_and]

@[simp] theorem unmarked_place {state : State} {offset : Nat} {tokens : List Token} :
    Unmarked (place state offset tokens) ↔ markToken ∉ tokens := by
  induction tokens generalizing offset with
  | nil => simp [place]
  | cons token tokens ih => rw [place, unmarked_cons, ih, List.mem_cons, not_or, ne_comm]

theorem readingsFrom_step {state : State} {flag : Bool} {taken rest : Text} {step : Step}
    (read : (state.rules.findSome? fun rule => rule flag (taken ++ rest)) = some step)
    (ne : taken ≠ []) (size : step.size = taken.length) (offset : Nat) :
    readingsFrom state flag offset (taken ++ rest) = place state offset step.tokens ++
      readingsFrom step.next (Search.lineStartAfter taken) (offset + taken.length) rest := by
  obtain ⟨c, taken, rfl⟩ := List.exists_cons_of_ne_nil ne
  have less : step.size - 1 = taken.length := by rw [size, List.length_cons, Nat.add_sub_cancel]
  rw [List.cons_append] at read
  rw [List.cons_append, readingsFrom, read]
  simp only [less, List.take_left, List.drop_left, List.length_cons, Nat.add_assoc, Nat.add_comm 1]

/-- A line feed as a token. -/
def feedToken : Token := ⟨.whitespace, ['\n']⟩

/-- Behind a line feed the lexer is in running text. -/
theorem readingsFrom_feed (state : State) (flag : Bool) (offset : Nat) (text : Text) :
    readingsFrom state flag offset ('\n' :: text) =
      ⟨state, offset, feedToken⟩ :: readingsFrom .body true (offset + 1) text := by
  have read : (state.rules.findSome? fun rule => rule flag ('\n' :: text)) =
      some ⟨[feedToken], .body, 1⟩ := by
    cases state <;> cases flag <;> rfl
  exact readingsFrom_step read (List.cons_ne_nil '\n' []) rfl offset

theorem readingsFrom_stays {state : State} {flag : Bool} {text : Text} {step : Step}
    (read : (state.rules.findSome? fun rule => rule flag text) = some step)
    (stays : step.Stays state text) (offset : Nat) : ∃ rest, text = spelled step.tokens ++ rest ∧
      state.line text = spelled step.tokens ++ state.line rest ∧
      readingsFrom state flag offset text = place state offset step.tokens ++
        readingsFrom state false (offset + (spelled step.tokens).length) rest := by
  obtain ⟨rest, cut, line⟩ := stays.line
  refine ⟨rest, cut, line, ?_⟩
  rw [cut] at read ⊢
  rw [readingsFrom_step read stays.pos stays.size, stays.next, stays.ends]

/-- Inside a line one step takes some characters of it and loses none. -/
theorem exists_tokens_inside {state : State} {flag : Bool} {c : Char} (inside : c ≠ '\n')
    {text : Text} (unopened : state = .body → flag = true → openedName? (c :: text) = none)
    (offset : Nat) : ∃ tokens rest, c :: text = spelled tokens ++ rest ∧ spelled tokens ≠ [] ∧
      markToken ∉ tokens ∧ state.line (c :: text) = spelled tokens ++ state.line rest ∧
      readingsFrom state flag offset (c :: text) = place state offset tokens ++
        readingsFrom state false (offset + (spelled tokens).length) rest := by
  cases read : state.rules.findSome? fun rule => rule flag (c :: text) with
  | some step =>
    have stays : step.Stays state (c :: text) := by
      cases state with
      | body =>
        obtain ⟨other, same, stays⟩ := exists_body_step inside (unopened rfl)
        obtain rfl := Option.some.inj (read.symm.trans same)
        exact stays
      | args => exact (within_argRules inside read).stays (by decide)
      | condition => exact (within_conditionRules inside read).stays (by decide)
    obtain ⟨rest, cut, line, behind⟩ := readingsFrom_stays read stays offset
    exact ⟨step.tokens, rest, cut, stays.pos, stays.unmarked, line, behind⟩
  | none =>
    -- only running text reads every character, so here the lexer is in arguments or in a condition
    have outside : state ≠ .body := by
      rintro rfl
      obtain ⟨step, same, -⟩ := exists_body_step inside (unopened rfl)
      exact nomatch read.symm.trans same
    have line : Text.firstLine (c :: text) = c :: Text.firstLine text := by
      rw [Text.firstLine, Text.firstLine, List.takeWhile_cons, if_pos (bne_iff_ne.2 inside)]
    refine ⟨[⟨.error, [c]⟩], text, by simp, by simp, by simp [markToken], ?_, ?_⟩
    · cases state with
      | body => exact absurd rfl outside
      | args => simpa [State.line] using line
      | condition => simpa [State.line] using line
    · rw [readingsFrom, read, beq_eq_false_iff_ne.2 inside]
      simp [place]

/-- The rest of a line is read in the state in which it begins, without loss and without a mark. -/
theorem exists_readings_inside (state : State) (flag : Bool) (offset : Nat) (text : Text)
    (unopened : state = .body → flag = true → openedName? text = none) :
    ∃ rs, written rs = state.line text ∧ Unmarked rs ∧
      readingsFrom state flag offset text = rs ++
        readingsFrom state false (offset + (state.line text).length)
          (text.drop (state.line text).length) := by
  induction size : text.length using Nat.strongRecOn generalizing flag offset text with
  | ind n ih =>
    subst size
    cases text with
    | nil => exact ⟨[], by simp, unmarked_nil, by simp [readingsFrom]⟩
    | cons c text =>
      by_cases feed : c = '\n'
      · subst feed
        exact ⟨[], by simp, unmarked_nil, by simp [readingsFrom_feed]⟩
      · obtain ⟨tokens, rest, cut, ne, unmarked, line, first⟩ :=
          exists_tokens_inside feed unopened offset
        have fewer : rest.length < (c :: text).length := by
          have := List.length_pos_iff.2 ne
          rw [cut, List.length_append]
          omega
        obtain ⟨rs, spells, others, behind⟩ :=
          ih _ fewer false (offset + (spelled tokens).length) rest nofun rfl
        refine ⟨place state offset tokens ++ rs, ?_, ?_, ?_⟩
        · rw [written_append, written_place, spells, line]
        · exact unmarked_append.2 ⟨unmarked_place.2 unmarked, others⟩
        · rw [first, behind, line, cut, List.length_append, List.drop_length_add_append,
            List.append_assoc, Nat.add_assoc]

/-- How one line of markup is read, from the offset at which it stands. -/
structure ReadsLine (offset : Nat) (line : Text) (rs : List Reading) : Prop where
  spells : written rs = kept line
  opens : ∀ name, openedName? line = some name → ∃ kind ∈ nameKinds, ∃ rest,
    rs = ⟨.body, offset, markToken⟩ ::
      ⟨.body, offset + Directive.mark.length, ⟨kind, name⟩⟩ :: rest ∧ Unmarked rest
  plain : openedName? line = none → Unmarked rs

/-- How lines of markup are read: line by line, with the line feeds between them. -/
inductive ReadsLines : Nat → List Text → List Reading → Prop
  | last {offset : Nat} {line : Text} {rs : List Reading} (read : ReadsLine offset line rs) :
      ReadsLines offset [line] rs
  | feed {offset : Nat} {line : Text} {later : List Text} {rs behind : List Reading}
      (state : State) (read : ReadsLine offset line rs)
      (others : ReadsLines (offset + line.length + 1) later behind) :
      ReadsLines offset (line :: later)
        (rs ++ ⟨state, offset + line.length, feedToken⟩ :: behind)

/-- The front line of a text is read before the rest of it. -/
theorem exists_readsLine (offset : Nat) (text : Text) :
    ∃ rs state, ReadsLine offset (markupLine text) rs ∧
      readingsFrom .body true offset text = rs ++
        readingsFrom state false (offset + (markupLine text).length)
          (text.drop (markupLine text).length) := by
  cases opened : openedName? text with
  | none =>
    obtain ⟨rs, spells, unmarked, behind⟩ :=
      exists_readings_inside .body true offset text fun _ _ => opened
    have line : markupLine text = State.body.line text := by
      rw [markupLine, opened]
      rfl
    have unopened : openedName? (markupLine text) = none := by rw [openedName?_markupLine, opened]
    rw [← line] at spells behind
    refine ⟨rs, .body, ⟨?_, ?_, fun _ => unmarked⟩, behind⟩
    · rw [spells, kept_of_not_opened unopened]
    · intro name some
      rw [unopened] at some
      cases some
  | some name =>
    obtain ⟨step, read, opens⟩ := exists_opening_step opened
    obtain ⟨taken, rest, cut, size, ne, free, line, keeps⟩ := opens.line
    have named : openedName? (markupLine text) = some name := by rw [openedName?_markupLine, opened]
    have first : markupLine text = Text.firstLine text := by
      rw [markupLine, opened]
      rfl
    obtain ⟨rs, spells, unmarked, behind⟩ :=
      exists_readings_inside step.next false (offset + taken.length) rest
        fun _ start => absurd start Bool.false_ne_true
    refine ⟨place .body offset step.tokens ++ rs, step.next, ⟨?_, ?_, ?_⟩, ?_⟩
    · rw [written_append, written_place, spells, first, keeps]
    · intro name' some
      obtain rfl := Option.some.inj (named.symm.trans some)
      obtain ⟨kind, among, extra, same, others⟩ := opens.tokens
      rw [same]
      exact ⟨kind, among, _, rfl, unmarked_append.2 ⟨unmarked_place.2 others, unmarked⟩⟩
    · intro none
      rw [named] at none
      cases none
    · rw [first, line]
      subst cut
      rw [readingsFrom_step read ne size, Search.lineStartAfter_of_free free, behind,
        List.length_append, List.drop_length_add_append, List.append_assoc, Nat.add_assoc]

/-- The lexer reads markup line by line. -/
theorem readsLines_markupLines (offset : Nat) (text : Text) :
    ReadsLines offset (markupLines text) (readingsFrom .body true offset text) := by
  fun_induction markupLines text generalizing offset with
  | case1 text last =>
    obtain ⟨rs, state, read, behind⟩ := exists_readsLine offset text
    rw [behind, last, readingsFrom, List.append_nil]
    exact .last read
  | case2 text c rest feed ih =>
    obtain ⟨rs, state, read, behind⟩ := exists_readsLine offset text
    obtain ⟨rfl, -⟩ := eq_of_drop_eq_cons feed
    rw [behind, feed, readingsFrom_feed]
    exact .feed state read (ih _)

theorem ReadsLines.written {offset : Nat} {lines : List Text} {rs : List Reading}
    (reads : ReadsLines offset lines rs) : written rs = Text.ofLines (lines.map kept) := by
  induction reads with
  | last read =>
    rw [read.spells, List.map_singleton, Text.ofLines_cons, Text.afterLine_nil, List.append_nil]
  | @feed offset line later rs behind state read others ih =>
    have more : later.map kept ≠ [] := by cases others <;> exact List.cons_ne_nil _ _
    rw [List.map_cons, Text.ofLines_cons_of_ne_nil _ more, written_append, written_cons,
      read.spells, ih]
    rfl

/-- Each line is read among the lines around it, at the offset at which it stands. -/
theorem ReadsLines.exists_readsLine {offset : Nat} {before later : List Text} {line : Text}
    {rs : List Reading} (reads : ReadsLines offset (before ++ line :: later) rs) :
    ∃ above own below, rs = above ++ own ++ below ∧
      ReadsLine (offset + (Text.beforeLine before).length) line own := by
  induction before generalizing offset rs with
  | nil =>
    cases reads with
    | last read => exact ⟨[], rs, [], by simp, read⟩
    | feed state read others => exact ⟨[], _, _, rfl, read⟩
  | cons first before ih =>
    rw [List.cons_append] at reads
    generalize same : before ++ line :: later = lines at reads
    cases reads with
    | last read => simp at same
    | @feed _ _ _ rs behind state read others =>
      subst same
      obtain ⟨above, own, below, rfl, reads⟩ := ih others
      refine ⟨rs ++ ⟨state, offset + first.length, feedToken⟩ :: above, own, below, by simp, ?_⟩
      have shift : offset + (Text.beforeLine (first :: before)).length =
          offset + first.length + 1 + (Text.beforeLine before).length := by
        rw [Text.beforeLine_cons, List.length_append, List.length_cons]
        omega
      rwa [shift]

theorem ReadsLine.of_mark {offset : Nat} {line : Text} {rs : List Reading}
    (read : ReadsLine offset line rs) {reading : Reading} (among : reading ∈ rs)
    (marked : reading.token = markToken) :
    reading.state = .body ∧ reading.start = offset ∧ (openedName? line).isSome := by
  cases opened : openedName? line with
  | none => exact absurd marked (read.plain opened reading among)
  | some name =>
    obtain ⟨kind, kinds, rest, rfl, unmarked⟩ := read.opens name opened
    rcases List.mem_cons.1 among with rfl | among
    · exact ⟨rfl, rfl, rfl⟩
    · rcases List.mem_cons.1 among with rfl | among
      · have other : kind ≠ .punctuation := by
          rintro rfl
          exact absurd kinds (by decide)
        exact absurd (congrArg Token.kind marked) other
      · exact absurd marked (unmarked reading among)

/-- A mark is read at the front of a line that opens a directive, in running text. -/
theorem ReadsLines.of_mark {offset : Nat} {lines : List Text} {rs : List Reading}
    (reads : ReadsLines offset lines rs) {reading : Reading} (among : reading ∈ rs)
    (marked : reading.token = markToken) :
    reading.state = .body ∧ ∃ before line later, lines = before ++ line :: later ∧
      reading.start = offset + (Text.beforeLine before).length ∧ (openedName? line).isSome := by
  induction reads with
  | @last offset line rs read =>
    obtain ⟨state, start, opened⟩ := read.of_mark among marked
    exact ⟨state, [], line, [], rfl, start, opened⟩
  | @feed offset line later rs behind state read others ih =>
    rw [List.mem_append, List.mem_cons] at among
    rcases among with among | rfl | among
    · obtain ⟨state, start, opened⟩ := read.of_mark among marked
      exact ⟨state, [], line, later, rfl, start, opened⟩
    · exact absurd marked (by decide : feedToken ≠ markToken)
    · obtain ⟨state, before, line', later', rfl, start, opened⟩ := ih among
      refine ⟨state, line :: before, line', later', rfl, ?_, opened⟩
      rw [start, Text.beforeLine_cons, List.length_append, List.length_cons]
      omega

end PageDirectives.Lexer
