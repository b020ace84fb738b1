import PageDirectives.Markup.Lexer
import PageDirectives.Proofs.Text.Lines
/-!
What the rules of arguments and of conditions read. Each of them reads a piece of its line, stays in
its state, and its tokens spell the whole piece; none of the tokens is punctuation. So a line feed
is the only way out of arguments and conditions, and nothing is lost inside them.
-/
namespace PageDirectives.Lexer

/-- What tokens spell, one after the other. -/
def spelled (tokens : List Token) : Text := tokens.flatMap (·.text)

@[simp] theorem spelled_nil : spelled [] = [] := rfl

@[simp] theorem spelled_cons (token : Token) (tokens : List Token) :
    spelled (token :: tokens) = token.text ++ spelled tokens := List.flatMap_cons

@[simp] theorem spelled_append (first second : List Token) :
    spelled (first ++ second) = spelled first ++ spelled second := List.flatMap_append

/-- A step that reads a piece of a line and stays in its state. -/
structure Step.Within (state : State) (text : Text) (step : Step) : Prop where
  next : step.next = state
  size : step.size = (spelled step.tokens).length
  pos : spelled step.tokens ≠ []
  front : spelled step.tokens <+: text
  free : '\n' ∉ spelled step.tokens
  plain : ∀ token ∈ step.tokens, token.kind ≠ .punctuation

theorem single_eq_some_iff {kind : TokenKind} {next : State} {piece : Text} {step : Step} :
    single kind next piece = some step ↔
      piece ≠ [] ∧ step = ⟨[⟨kind, piece⟩], next, piece.length⟩ := by
  rw [single]
  split <;> simp_all [eq_comm]

theorem within_single {kind : TokenKind} {state : State} {piece text : Text} {step : Step}
    (read : single kind state piece = some step) (front : piece <+: text) (free : '\n' ∉ piece)
    (plain : kind ≠ .punctuation) : step.Within state text := by
  obtain ⟨ne, rfl⟩ := single_eq_some_iff.1 read
  have spells : spelled [⟨kind, piece⟩] = piece := by simp
  exact ⟨rfl, by simp, by simpa, by simpa, by simpa, by simpa⟩

theorem within_run {kind : TokenKind} {state : State} {p : Char → Bool} {flag : Bool} {text : Text}
    {step : Step} (read : run kind state p flag text = some step) (feed : p '\n' = false)
    (plain : kind ≠ .punctuation) : step.Within state text :=
  within_single read (List.takeWhile_prefix p) (Text.notMem_takeWhile feed text) plain

theorem lineFeed_of_ne {c : Char} (inside : c ≠ '\n') (flag : Bool) (text : Text) :
    lineFeed flag (c :: text) = none := by
  unfold lineFeed
  split
  · next eq => exact absurd (List.cons.inj eq).1 inside
  · rfl

theorem anyName?_eq_some {text name : Text} (h : anyName? text = some name) :
    ∃ c rest, text = c :: rest ∧ Text.isNameStart c = true ∧
      name = c :: rest.takeWhile Text.isNameChar := by
  cases text with
  | nil => simp [anyName?] at h
  | cons c rest =>
    rw [anyName?] at h
    split at h
    · next start => exact ⟨c, rest, rfl, start, (Option.some.inj h).symm⟩
    · simp at h

theorem prefix_of_anyName? {text name : Text} (h : anyName? text = some name) : name <+: text := by
  obtain ⟨c, rest, rfl, -, rfl⟩ := anyName?_eq_some h
  exact List.cons_prefix_cons.2 ⟨rfl, List.takeWhile_prefix _⟩

theorem newline_notMem_anyName? {text name : Text} (h : anyName? text = some name) :
    '\n' ∉ name := by
  obtain ⟨c, rest, rfl, start, rfl⟩ := anyName?_eq_some h
  rw [List.mem_cons, not_or]
  refine ⟨?_, Text.notMem_takeWhile (by decide) rest⟩
  rintro rfl
  exact absurd start (by decide)

theorem quotedText?_eq_some {text piece : Text} (h : quotedText? text = some piece) :
    piece <+: text ∧ '\n' ∉ piece := by
  cases text with
  | nil => simp [quotedText?] at h
  | cons quote rest =>
    simp only [quotedText?] at h
    split at h
    · next isQuote =>
      split at h
      · next closed =>
        obtain rfl := (Option.some.inj h).symm
        generalize same : rest.takeWhile (fun c => c != quote && c != '\n') = body at closed
        obtain ⟨behind, cut⟩ : body <+: rest := same ▸ List.takeWhile_prefix _
        rw [← cut, List.drop_left] at closed
        obtain ⟨more, rfl⟩ := List.head?_eq_some_iff.1 closed
        refine ⟨⟨more, by simp [← cut]⟩, ?_⟩
        have free : '\n' ∉ body := same ▸ Text.notMem_takeWhile (by simp) rest
        have notFeed : '\n' ≠ quote := by rintro rfl; simp at isQuote
        simp [free, notFeed]
      · simp at h
    · simp at h

theorem within_keyValue {flag : Bool} {text : Text} {step : Step}
    (read : keyValue flag text = some step) : step.Within .args text := by
  obtain ⟨key, named, behind⟩ := Option.bind_eq_some_iff.1 read
  obtain ⟨rest, equals, valued⟩ := Option.bind_eq_some_iff.1 behind
  clear read behind
  obtain ⟨more, rfl⟩ := prefix_of_anyName? named
  rw [List.drop_left] at equals
  obtain rfl := Text.after?_eq_some equals
  dsimp only at valued
  split at valued
  · simp at valued
  · obtain rfl := (Option.some.inj valued).symm
    -- quoted or not, the value is a piece of what follows the equals sign
    have part : (quotedText? rest).getD (rest.takeWhile (!Text.isBlank ·)) <+: rest ∧
        '\n' ∉ (quotedText? rest).getD (rest.takeWhile (!Text.isBlank ·)) := by
      cases quoted : quotedText? rest with
      | none => exact ⟨List.takeWhile_prefix _, Text.notMem_takeWhile (by decide) rest⟩
      | some piece => exact quotedText?_eq_some quoted
    generalize (quotedText? rest).getD (rest.takeWhile (!Text.isBlank ·)) = value at part
    obtain ⟨⟨more, rfl⟩, free⟩ := part
    refine ⟨rfl, ?_, ?_, ⟨more, ?_⟩, ?_, ?_⟩
    · simp only [spelled_cons, spelled_nil, List.length_append, List.length_cons, List.length_nil]
      omega
    · simp
    · simp
    · simpa [free] using newline_notMem_anyName? named
    · simp

theorem prefix_append_of_drop {first second text : Text} (front : first <+: text)
    (behind : second <+: text.drop first.length) : first ++ second <+: text := by
  rw [← List.prefix_iff_eq_append.1 front]
  exact (List.prefix_append_right_inj first).2 behind

theorem numberParts_isPrefix (separator : Char) (text : Text) :
    numberParts separator text <+: text := by
  fun_induction numberParts separator text with
  | case1 => exact List.nil_prefix
  | case2 rest digits none => exact List.nil_prefix
  | case3 rest digits some ih =>
    refine List.cons_prefix_cons.2 ⟨rfl, ?_⟩
    exact prefix_append_of_drop (List.takeWhile_prefix _) ih
  | case4 c rest other => exact List.nil_prefix

theorem newline_notMem_numberParts {separator : Char} (notFeed : '\n' ≠ separator) (text : Text) :
    '\n' ∉ numberParts separator text := by
  fun_induction numberParts separator text with
  | case1 => simp
  | case2 => simp
  | case3 rest digits some ih =>
    have free : '\n' ∉ digits := Text.notMem_takeWhile (by decide) rest
    simp [notFeed, free, ih]
  | case4 => simp

theorem within_sizes {flag : Bool} {text : Text} {step : Step}
    (read : sizes flag text = some step) : step.Within .args text := by
  simp only [sizes] at read
  split at read
  · simp at read
  · refine within_single read ?_ ?_ (by decide)
    · exact prefix_append_of_drop (List.takeWhile_prefix _) (numberParts_isPrefix _ _)
    · rw [List.mem_append, not_or]
      exact ⟨Text.notMem_takeWhile (by decide) text,
        newline_notMem_numberParts (by decide) _⟩

theorem within_sign {flag : Bool} {text : Text} {step : Step} (read : sign flag text = some step) :
    step.Within .args text := by
  cases text with
  | nil => simp [sign] at read
  | cons c rest =>
    simp only [sign] at read
    split at read
    · next isSign =>
      refine within_single read (List.prefix_append [c] rest) ?_ (by decide)
      rcases isSign.1 with rfl | rfl <;> decide
    · simp at read

theorem within_argRules {c : Char} (inside : c ≠ '\n') {flag : Bool} {text : Text} {step : Step}
    (read : (argRules.findSome? fun rule => rule flag (c :: text)) = some step) :
    step.Within .args (c :: text) := by
  obtain ⟨rule, among, read⟩ := List.exists_of_findSome?_eq_some read
  simp only [argRules, List.mem_cons, List.not_mem_nil, or_false] at among
  rcases among with rfl | rfl | rfl | rfl | rfl | rfl
  · simp [lineFeed_of_ne inside] at read
  · exact within_keyValue read
  · exact within_sizes read
  · exact within_sign read
  · exact within_run read (by decide) (by decide)
  · exact within_run read (by decide) (by decide)

theorem within_comparison {flag : Bool} {text : Text} {step : Step}
    (read : comparison flag text = some step) : step.Within .condition text := by
  unfold comparison at read
  split at read
  · next rest => exact within_single read ⟨rest, rfl⟩ (by decide) (by decide)
  · next rest => exact within_single read ⟨rest, rfl⟩ (by decide) (by decide)
  · next c rest _ _ =>
    split at read
    · next among =>
      refine within_single read (List.prefix_append [c] rest) ?_ (by decide)
      simp only [List.mem_cons, List.not_mem_nil, or_false] at among
      rcases among with rfl | rfl | rfl <;> decide
    · simp at read
  · simp at read

theorem within_conditionText {flag : Bool} {text : Text} {step : Step}
    (read : conditionText flag text = some step) : step.Within .condition text := by
  obtain ⟨piece, quoted, read⟩ := Option.bind_eq_some_iff.1 read
  obtain ⟨front, free⟩ := quotedText?_eq_some quoted
  exact within_single read front free (by decide)

theorem within_conditionNumber {flag : Bool} {text : Text} {step : Step}
    (read : conditionNumber flag text = some step) : step.Within .condition text := by
  simp only [conditionNumber] at read
  generalize sameMinus : (if text.head? = some '-' then ['-'] else [] : Text) = minus at read
  have minusFront : minus <+: text ∧ '\n' ∉ minus := by
    rw [← sameMinus]
    split
    · next dash =>
      obtain ⟨rest, rfl⟩ := List.head?_eq_some_iff.1 dash
      exact ⟨⟨rest, rfl⟩, by decide⟩
    · exact ⟨List.nil_prefix, List.not_mem_nil⟩
  obtain ⟨⟨unsigned, rfl⟩, minusFree⟩ := minusFront
  rw [List.drop_left] at read
  generalize sameWhole : unsigned.takeWhile Text.isDigit = whole at read
  obtain ⟨behind, rfl⟩ : whole <+: unsigned := sameWhole ▸ List.takeWhile_prefix _
  have wholeFree : '\n' ∉ whole := sameWhole ▸ Text.notMem_takeWhile (by decide) _
  split at read
  · simp at read
  · rw [← List.append_assoc, ← List.length_append, List.drop_left] at read
    have placed (places : Text) (front : places <+: behind) (free : '\n' ∉ places)
        (read : single .number .condition (minus ++ whole ++ places) = some step) :
        step.Within .condition (minus ++ (whole ++ behind)) := by
      refine within_single read ?_ ?_ (by decide)
      · rw [← List.append_assoc]
        exact (List.prefix_append_right_inj _).2 front
      · rw [List.mem_append, List.mem_append, not_or, not_or]
        exact ⟨⟨minusFree, wholeFree⟩, free⟩
    split at read
    · next rest =>
      split at read
      · exact placed [] List.nil_prefix List.not_mem_nil read
      · refine placed _ (List.cons_prefix_cons.2 ⟨rfl, List.takeWhile_prefix _⟩) ?_ read
        rw [List.mem_cons, not_or]
        exact ⟨by decide, Text.notMem_takeWhile (by decide) _⟩
    · exact placed [] List.nil_prefix List.not_mem_nil read

theorem within_conditionRules {c : Char} (inside : c ≠ '\n') {flag : Bool} {text : Text}
    {step : Step}
    (read : (conditionRules.findSome? fun rule => rule flag (c :: text)) = some step) :
    step.Within .condition (c :: text) := by
  obtain ⟨rule, among, read⟩ := List.exists_of_findSome?_eq_some read
  simp only [conditionRules, List.mem_cons, List.not_mem_nil, or_false] at among
  rcases among with rfl | rfl | rfl | rfl | rfl | rfl
  · simp [lineFeed_of_ne inside] at read
  · exact within_comparison read
  · exact within_conditionText read
  · exact within_conditionNumber read
  · exact within_run read (by decide) (by decide)
  · exact within_run read (by decide) (by decide)

end PageDirectives.Lexer
