import PageDirectives.Proofs.Directive.Opening
import PageDirectives.Proofs.Markup.Rules
import PageDirectives.Proofs.Text.Cuts
/-!
The lines of directive markup. A line that opens a directive ends at the next line feed; any other
line ends at the first line feed outside comments. Where no comment stands these are the lines of
the text. Joined again they are the text, whatever stands in it.
-/
namespace PageDirectives.Lexer

/-- A comment at the front of a text, with the percent signs around it. -/
def commentText? (text : Text) : Option Text := do
  let rest ← Text.after? ['%', '%'] text
  let (body, _) ← Text.cut? ['%', '%'] rest
  some ('%' :: '%' :: body ++ ['%', '%'])

theorem comment_eq (flag : Bool) (text : Text) :
    comment flag text = (commentText? text).bind (single .comment .body) := by
  rw [comment, commentText?]
  simp only [Option.bind_eq_bind, Option.bind_assoc, Option.bind_some]

theorem exists_of_commentText? {text piece : Text} (h : commentText? text = some piece) :
    ∃ body rest, piece = '%' :: '%' :: body ++ ['%', '%'] ∧ text = piece ++ rest := by
  obtain ⟨behind, opened, closed⟩ := Option.bind_eq_some_iff.1 h
  obtain ⟨⟨body, rest⟩, cut, same⟩ := Option.bind_eq_some_iff.1 closed
  obtain rfl := Option.some.inj same
  refine ⟨body, rest, rfl, ?_⟩
  rw [Text.after?_eq_some opened, Text.cut?_eq_some cut]
  simp

theorem commentText?_of_ne {c : Char} (other : c ≠ '%') (text : Text) :
    commentText? (c :: text) = none := by
  simp [commentText?, Text.after?, Ne.symm other]

theorem commentText?_eq_none {text : Text} (free : ¬ (['%', '%'] : Text) <:+: text) :
    commentText? text = none := by
  rw [commentText?, Text.after?_eq_none_iff.2 fun front => free front.isInfix]
  rfl

/-- A text up to its first line feed outside comments. -/
def running : Text → Text
  | [] => []
  | c :: text =>
    if c = '\n' then []
    else
      match commentText? (c :: text) with
      | none => c :: running text
      | some piece => piece ++ running (text.drop (piece.length - 1))
termination_by text => text.length

@[simp] theorem running_nil : running [] = [] := by rw [running]

@[simp] theorem running_feed (text : Text) : running ('\n' :: text) = [] := by simp [running]

theorem running_cons {c : Char} (inside : c ≠ '\n') {text : Text}
    (none : commentText? (c :: text) = none) : running (c :: text) = c :: running text := by
  rw [running, if_neg inside, none]

theorem running_comment {piece rest : Text} (read : commentText? (piece ++ rest) = some piece) :
    running (piece ++ rest) = piece ++ running rest := by
  obtain ⟨body, -, rfl, -⟩ := exists_of_commentText? read
  simp only [List.cons_append] at read ⊢
  rw [running, if_neg (by decide), read]
  simp

/-- Neither a line feed nor a comment begins in a piece without line feeds and percent signs. -/
theorem running_append {piece : Text} (free : '\n' ∉ piece) (bare : '%' ∉ piece) (rest : Text) :
    running (piece ++ rest) = piece ++ running rest := by
  induction piece with
  | nil => rfl
  | cons c piece ih =>
    rw [List.mem_cons, not_or] at free bare
    rw [List.cons_append, running_cons (Ne.symm free.1) (commentText?_of_ne (Ne.symm bare.1) _),
      ih free.2 bare.2, List.cons_append]

theorem running_eq_self_or (text : Text) :
    running text = text ∨ ∃ rest, text = running text ++ '\n' :: rest := by
  fun_induction running text with
  | case1 => exact .inl rfl
  | case2 text => exact .inr ⟨text, rfl⟩
  | case3 c text inside none ih => simpa using ih
  | case4 c text inside piece read ih =>
    obtain ⟨body, rest, same, cut⟩ := exists_of_commentText? read
    have behind : text.drop (piece.length - 1) = rest := by
      have := congrArg (List.drop piece.length) cut
      rw [List.drop_left] at this
      subst same
      simpa using this
    rw [behind] at ih ⊢
    rw [cut]
    simpa using ih

theorem running_isPrefix (text : Text) : running text <+: text := by
  rcases running_eq_self_or text with same | ⟨rest, cut⟩
  · exact ⟨[], by rw [same, List.append_nil]⟩
  · exact ⟨_, cut.symm⟩

theorem firstLine_eq_self_or (text : Text) :
    Text.firstLine text = text ∨ ∃ rest, text = Text.firstLine text ++ '\n' :: rest := by
  obtain ⟨line, later, ls, rfl, -⟩ := Text.exists_lines text
  rw [Text.firstLine_ofLines (Text.areLines_cons.1 ls).1, Text.ofLines_cons]
  cases later with
  | nil => simp
  | cons next later => exact .inr ⟨Text.ofLines (next :: later), by rw [Text.afterLine_cons]⟩

theorem firstLine_append_of_free {piece : Text} (free : '\n' ∉ piece) (rest : Text) :
    Text.firstLine (piece ++ rest) = piece ++ Text.firstLine rest :=
  List.takeWhile_append_of_pos fun c mem => by
    rw [bne_iff_ne]
    rintro rfl
    exact free mem

theorem running_of_no_comment {text : Text} (free : ¬ (['%', '%'] : Text) <:+: text) :
    running text = Text.firstLine text := by
  induction text with
  | nil => simp [Text.firstLine]
  | cons c text ih =>
    by_cases feed : c = '\n'
    · simp [feed, Text.firstLine]
    · have behind := ih fun later => free (later.trans (List.suffix_cons c text).isInfix)
      rw [running_cons feed (commentText?_eq_none free), behind, Text.firstLine, Text.firstLine,
        List.takeWhile_cons, if_pos (bne_iff_ne.2 feed)]

/-- What is left of a line in a state: only running text knows comments. -/
def State.line : State → Text → Text
  | .body => running
  | .args | .condition => Text.firstLine

@[simp] theorem State.line_nil (state : State) : state.line [] = [] := by
  cases state <;> simp [State.line, Text.firstLine]

@[simp] theorem State.line_feed (state : State) (text : Text) : state.line ('\n' :: text) = [] := by
  cases state <;> simp [State.line, Text.firstLine]

/-- The name of the directive that a text opens at its front. -/
def openedName? (text : Text) : Option Text := (Text.after? Directive.mark text).bind anyName?

theorem openedName?_eq_some_iff {text name : Text} :
    openedName? text = some name ↔ ∃ c rest, text = Directive.mark ++ c :: rest ∧
      Text.isNameStart c = true ∧ name = (c :: rest).takeWhile Text.isNameChar := by
  rw [openedName?, Option.bind_eq_some_iff]
  constructor
  · rintro ⟨behind, marked, named⟩
    obtain ⟨c, rest, rfl, start, rfl⟩ := anyName?_eq_some named
    refine ⟨c, rest, Text.after?_eq_some marked, start, ?_⟩
    rw [List.takeWhile_cons, if_pos (Text.isNameChar_of_isNameStart start)]
  · rintro ⟨c, rest, rfl, start, rfl⟩
    refine ⟨c :: rest, Text.after?_append _ _, ?_⟩
    rw [anyName?, if_pos start, List.takeWhile_cons,
      if_pos (Text.isNameChar_of_isNameStart start)]

theorem isSome_openedName?_of_prefix {line text : Text} (front : line <+: text)
    (opened : (openedName? line).isSome) : (openedName? text).isSome := by
  obtain ⟨name, named⟩ := Option.isSome_iff_exists.1 opened
  obtain ⟨c, rest, rfl, start, -⟩ := openedName?_eq_some_iff.1 named
  obtain ⟨behind, rfl⟩ := front
  rw [openedName?_eq_some_iff.2 ⟨c, rest ++ behind, by simp, start, rfl⟩]
  rfl

/-- The name of a directive does not go beyond its line. -/
theorem openedName?_firstLine (text : Text) :
    openedName? (Text.firstLine text) = openedName? text := by
  obtain ⟨line, later, ls, rfl, -⟩ := Text.exists_lines text
  rw [Text.firstLine_ofLines (Text.areLines_cons.1 ls).1, Text.ofLines_cons]
  have markFree : '\n' ∉ Directive.mark := by decide
  rw [openedName?, openedName?, Text.after?_line markFree]
  cases Text.after? Directive.mark line with
  | none => rfl
  | some rest =>
    rw [Option.map_some, Option.bind_some, Option.bind_some]
    cases rest with
    | nil =>
      cases later with
      | nil => rfl
      | cons next later =>
        rw [Text.afterLine_cons, List.nil_append, anyName?, anyName?, if_neg (by decide)]
    | cons c rest =>
      rw [List.cons_append, anyName?, anyName?, Text.takeWhile_line (by decide)]

/-- The first line of directive markup. -/
def markupLine (text : Text) : Text :=
  if (openedName? text).isSome then Text.firstLine text else running text

theorem markupLine_eq_self_or (text : Text) :
    markupLine text = text ∨ ∃ rest, text = markupLine text ++ '\n' :: rest := by
  rw [markupLine]
  split
  · exact firstLine_eq_self_or text
  · exact running_eq_self_or text

theorem openedName?_markupLine (text : Text) :
    openedName? (markupLine text) = openedName? text := by
  rw [markupLine]
  split
  · exact openedName?_firstLine text
  · next unopened =>
    rw [Bool.not_eq_true, Option.isSome_eq_false_iff, Option.isNone_iff_eq_none] at unopened
    cases opened : openedName? (running text) with
    | none => exact unopened.symm
    | some name =>
      have := isSome_openedName?_of_prefix (running_isPrefix text) (opened ▸ rfl)
      simp [unopened] at this

/-- The lines of directive markup: line feeds inside comments of running text end none. -/
def markupLines (text : Text) : List Text :=
  match _behind : text.drop (markupLine text).length with
  | [] => [markupLine text]
  | _ :: rest => markupLine text :: markupLines rest
termination_by text.length
decreasing_by
  have := congrArg List.length _behind
  rw [List.length_drop, List.length_cons] at this
  omega

theorem markupLines_ne_nil (text : Text) : markupLines text ≠ [] := by
  rw [markupLines]
  split <;> exact List.cons_ne_nil _ _

theorem markupLine_of_drop_eq_nil {text : Text} (last : text.drop (markupLine text).length = []) :
    markupLine text = text := by
  rcases markupLine_eq_self_or text with same | ⟨rest, feed⟩
  · exact same
  · generalize markupLine text = line at last feed
    rw [feed, List.drop_left] at last
    exact nomatch last

/-- What stands behind a line of markup is a line feed. -/
theorem eq_of_drop_eq_cons {text rest : Text} {c : Char}
    (behind : text.drop (markupLine text).length = c :: rest) :
    c = '\n' ∧ text = markupLine text ++ '\n' :: rest := by
  rcases markupLine_eq_self_or text with same | ⟨rest', feed⟩
  · rw [same, List.drop_length] at behind
    exact nomatch behind
  · have cut : text.drop (markupLine text).length = '\n' :: rest' := by
      generalize markupLine text = line at feed
      rw [feed, List.drop_left]
    obtain ⟨rfl, rfl⟩ := List.cons.inj (cut.symm.trans behind)
    exact ⟨rfl, feed⟩

theorem ofLines_markupLines (text : Text) : Text.ofLines (markupLines text) = text := by
  fun_induction markupLines text with
  | case1 text last =>
    rw [Text.ofLines_cons, Text.afterLine_nil, List.append_nil, markupLine_of_drop_eq_nil last]
  | case2 text c rest behind ih =>
    rw [Text.ofLines_cons_of_ne_nil _ (markupLines_ne_nil rest), ih]
    exact (eq_of_drop_eq_cons behind).2.symm

/-- Without comments the lines of markup are those of the text. -/
theorem markupLines_eq_lines {text : Text} (free : ¬ (['%', '%'] : Text) <:+: text) :
    markupLines text = Text.lines text := by
  have first {text : Text} (free : ¬ (['%', '%'] : Text) <:+: text) : '\n' ∉ markupLine text := by
    rw [markupLine, running_of_no_comment free, ite_self]
    exact Text.notMem_takeWhile (by decide) text
  fun_induction markupLines text with
  | case1 text last =>
    rw [← Text.lines_of_notMem (first free), markupLine_of_drop_eq_nil last]
  | case2 text c rest behind ih =>
    have cut := (eq_of_drop_eq_cons behind).2
    have within : rest <:+ text := ⟨markupLine text ++ ['\n'], by simpa using cut.symm⟩
    rw [ih fun later => free (later.trans within.isInfix)]
    have firstFree := first free
    generalize markupLine text = line at cut firstFree
    rw [cut, Text.lines_append_feed, Text.lines_of_notMem firstFree, List.singleton_append]

/-- A line that opens a directive is a single line. -/
theorem newline_notMem_of_openedName? {text line : Text} (among : line ∈ markupLines text)
    (opened : (openedName? line).isSome) : '\n' ∉ line := by
  have first {text : Text} (opened : (openedName? (markupLine text)).isSome) :
      '\n' ∉ markupLine text := by
    rw [openedName?_markupLine] at opened
    rw [markupLine, if_pos opened]
    exact Text.notMem_takeWhile (by decide) text
  fun_induction markupLines text with
  | case1 text last =>
    obtain rfl := List.mem_singleton.1 among
    exact first opened
  | case2 text c rest behind ih =>
    rcases List.mem_cons.1 among with rfl | among
    · exact first opened
    · exact ih among

theorem lines_eq_flatMap_markupLines (text : Text) :
    Text.lines text = (markupLines text).flatMap Text.lines := by
  have joined := Text.ofLines_flatMap_lines id (markupLines text)
  have ls : Text.AreLines ((markupLines text).flatMap Text.lines) := fun line mem => by
    obtain ⟨piece, -, mem⟩ := List.mem_flatMap.1 mem
    exact Text.areLines_lines piece line mem
  have ne : (markupLines text).flatMap Text.lines ≠ [] := by
    obtain ⟨line, later, same⟩ := List.exists_cons_of_ne_nil (markupLines_ne_nil text)
    rw [same, List.flatMap_cons]
    exact List.append_ne_nil_of_left_ne_nil (Text.lines_ne_nil line) _
  simp only [id_eq, List.map_id_fun] at joined
  rw [ofLines_markupLines] at joined
  rw [← Text.lines_ofLines ls ne, joined]

/-- A line of markup without line feeds is a line of the text, where it stands in the markup. -/
theorem lineAt_of_markupLines {text line : Text} {before later : List Text}
    (cut : markupLines text = before ++ line :: later) (free : '\n' ∉ line) :
    Text.LineAt text (Text.beforeLine before).length line := by
  refine ⟨before.flatMap Text.lines, later.flatMap Text.lines, ?_, ?_⟩
  · rw [lines_eq_flatMap_markupLines, cut, List.flatMap_append, List.flatMap_cons,
      Text.lines_of_notMem free, List.singleton_append]
  · have joined := Text.afterLine_flatMap_lines id before
    simp only [id_eq, List.map_id_fun] at joined
    rw [Text.length_beforeLine, Text.length_beforeLine, joined]

/-- A line as its tokens keep it: of a line that closes a block the spaces at its end are lost. -/
def kept (line : Text) : Text :=
  match Text.after? (Directive.mark ++ Directive.terminator) line with
  | some spaces => if spaces.all isSpace then Directive.mark ++ Directive.terminator else line
  | none => line

theorem kept_closing {spaces : Text} (blank : spaces.all isSpace = true) :
    kept (Directive.mark ++ Directive.terminator ++ spaces) =
      Directive.mark ++ Directive.terminator := by
  rw [kept, Text.after?_append]
  exact if_pos blank

theorem kept_of_not_closing {line : Text}
    (other : ∀ spaces, line = Directive.mark ++ Directive.terminator ++ spaces →
      spaces.all isSpace = false) : kept line = line := by
  rw [kept]
  split
  · next spaces read => rw [other spaces (Text.after?_eq_some read), if_neg Bool.false_ne_true]
  · rfl

theorem kept_of_not_opened {line : Text} (unopened : openedName? line = none) :
    kept line = line := by
  refine kept_of_not_closing fun spaces same => ?_
  have opened : openedName? line = some _ :=
    openedName?_eq_some_iff.2 ⟨'e', 'n' :: 'd' :: spaces, same, by decide, rfl⟩
  exact nomatch unopened.symm.trans opened

theorem kept_isPrefix (line : Text) : kept line <+: line := by
  rw [kept]
  split
  · next spaces read =>
    split
    · exact ⟨spaces, (Text.after?_eq_some read).symm⟩
    · exact List.prefix_refl line
  · exact List.prefix_refl line

theorem kept_eq_self_iff {line : Text} :
    kept line = line ↔ ∀ spaces, line = Directive.mark ++ Directive.terminator ++ spaces →
      spaces.all isSpace = true → spaces = [] := by
  constructor
  · rintro same spaces rfl blank
    rw [kept_closing blank] at same
    exact List.append_right_eq_self.1 same.symm
  · intro bare
    rw [kept]
    split
    · next spaces read =>
      split
      · next blank =>
        obtain rfl := Text.after?_eq_some read
        rw [bare spaces rfl blank, List.append_nil]
      · rfl
    · rfl

theorem length_afterLine_kept_le (lines : List Text) :
    (Text.afterLine (lines.map kept)).length ≤ (Text.afterLine lines).length := by
  induction lines with
  | nil => exact Nat.le_refl 0
  | cons line later ih =>
    have := (kept_isPrefix line).length_le
    rw [List.map_cons, Text.length_afterLine_cons, Text.length_afterLine_cons]
    omega

theorem kept_eq_self_of_afterLine {lines : List Text}
    (same : Text.afterLine (lines.map kept) = Text.afterLine lines) :
    ∀ line ∈ lines, kept line = line := by
  induction lines with
  | nil => simp
  | cons line later ih =>
    rw [List.map_cons, Text.afterLine_cons, Text.afterLine_cons, Text.ofLines_cons,
      Text.ofLines_cons] at same
    have joined := (List.cons.inj same).2
    -- neither of the two parts can make up for what the other has lost
    have size := congrArg List.length joined
    rw [List.length_append, List.length_append] at size
    have front := (kept_isPrefix line).length_le
    have back := length_afterLine_kept_le later
    obtain ⟨first, others⟩ := List.append_inj joined (by omega)
    exact List.forall_mem_cons.2 ⟨first, ih others⟩

/-- Kept lines make up the whole text only if each of them is kept as it is. -/
theorem ofLines_map_kept_eq_iff (lines : List Text) :
    Text.ofLines (lines.map kept) = Text.ofLines lines ↔ ∀ line ∈ lines, kept line = line := by
  constructor
  · intro same
    refine kept_eq_self_of_afterLine ?_
    cases lines with
    | nil => rfl
    | cons line later =>
      rw [List.map_cons] at same ⊢
      rw [Text.afterLine_cons, Text.afterLine_cons, same]
  · intro whole
    rw [List.map_congr_left whole, List.map_id']

end PageDirectives.Lexer
