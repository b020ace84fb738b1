import PageDirectives.Cleanup.Marks
import PageDirectives.Proofs.Directive.LineScan
import PageDirectives.Proofs.Text.Cuts
/-!
Highlights and runs of equals signs. A highlight lies on one line, so a text is marked line by line.
What it marks has a character other than an equals sign, unless it is read at five equals signs in a
row: of these the middle one is marked. So a line of equals signs is kept only if it is shorter.
-/
namespace PageDirectives.Cleanup

/-- The mark on both sides of a highlight. -/
def equals : Text := ['=', '=']

/-- The shortest run of equals signs in which a highlight is read. -/
def fiveEquals : Text := List.replicate 5 '='

/-- A highlighted text as it is written into a page. -/
def marked (body : Text) : Text := "<mark>" ++ body ++ "</mark>"

variable {text line rest body : Text}

theorem highlight_unanchored : highlight.Unanchored := fun _ _ => rfl

theorem highlight_of_unmarked (unmarked : ¬ equals <+: text) (flag : Bool) :
    highlight flag text = none := by
  have unread : Text.after? ['=', '='] text = none := Text.after?_eq_none_iff.2 unmarked
  rw [highlight, unread]
  rfl

theorem highlight_equals (rest : Text) (flag : Bool) :
    highlight flag (equals ++ rest) =
      match Text.firstLine rest with
      | [] => none
      | c :: line => (Text.cut? equals line).map fun (body, _) => (c :: body, body.length + 5) := by
  have read : Text.after? ['=', '='] (equals ++ rest) = some rest := Text.after?_append _ rest
  rw [highlight, read]
  simp only [Option.bind_eq_bind, Option.bind_some]
  cases Text.firstLine rest with
  | nil => rfl
  | cons c line => cases cut : Text.cut? equals line <;> simp_all [equals]

/-- What a highlight takes: a mark, a first character, and what stands before the next mark on the
line, with the mark. -/
theorem exists_of_highlight {flag : Bool} {size : Nat}
    (read : highlight flag text = some (body, size)) :
    ∃ c others back, body = c :: others ∧ text = equals ++ (body ++ (equals ++ back)) ∧
      size = body.length + 4 ∧ '\n' ∉ body ∧ ¬ equals <:+: others ++ equals.dropLast := by
  by_cases marked : equals <+: text
  · obtain ⟨rest, rfl⟩ := marked
    rw [highlight_equals] at read
    cases first : Text.firstLine rest with
    | nil => simp [first] at read
    | cons c line =>
      rw [first] at read
      obtain ⟨⟨others, behind⟩, cut, same⟩ := Option.map_eq_some_iff.1 read
      obtain ⟨rfl, rfl⟩ := Prod.mk.inj same
      have whole : rest = (c :: line) ++ rest.dropWhile (· != '\n') := by
        rw [← first]
        exact List.takeWhile_append_dropWhile.symm
      have free : '\n' ∉ c :: line := by
        rw [← first]
        exact Text.notMem_takeWhile (by simp) rest
      have cutLine : c :: line = (c :: others) ++ (equals ++ behind) := by
        rw [Text.cut?_eq_some cut]
        simp
      rw [cutLine] at whole free
      refine ⟨c, others, behind ++ rest.dropWhile (· != '\n'), rfl, ?_, rfl, ?_, ?_⟩
      · rw [List.append_assoc, List.append_assoc] at whole
        exact congrArg (equals ++ ·) whole
      · exact fun feed => free (List.mem_append_left _ feed)
      · exact Text.not_infix_append_of_cut? (by simp [equals]) cut
  · rw [highlight_of_unmarked marked] at read
    exact nomatch read

/-- At five equals signs in a row the middle one is read as a highlighted text. -/
theorem highlight_fiveEquals (rest : Text) (flag : Bool) :
    highlight flag (fiveEquals ++ rest) = some (['='], fiveEquals.length) := by
  have five : fiveEquals ++ rest = equals ++ ('=' :: '=' :: '=' :: rest) := rfl
  rw [five, highlight_equals]
  rfl

theorem markHighlights_fiveEquals (rest : Text) :
    Search.found highlight (fiveEquals ++ rest) = ['='] :: Search.found highlight rest ∧
      markHighlights (fiveEquals ++ rest) = marked ['='] ++ markHighlights rest :=
  have filled : fiveEquals ≠ [] := List.cons_ne_nil _ _
  Search.append_of_some highlight_unanchored marked filled (highlight_fiveEquals rest true)

/-- A highlighted text of equals signs is one sign, between two pairs. -/
theorem fiveEquals_prefix_of_highlight {flag : Bool} {size : Nat}
    (read : highlight flag text = some (body, size)) (signs : ∀ c ∈ body, c = '=') :
    fiveEquals <+: text := by
  obtain ⟨c, others, back, rfl, rfl, -, -, apart⟩ := exists_of_highlight read
  have same : c :: others = List.replicate (others.length + 1) '=' :=
    List.eq_replicate_iff.2 ⟨rfl, signs⟩
  rw [List.replicate_succ, List.cons.injEq] at same
  obtain ⟨rfl, same⟩ := same
  rw [same] at apart ⊢
  cases others with
  | nil => exact ⟨back, rfl⟩
  | cons d others =>
    -- a second sign would end the text one place further to the left
    have run : List.replicate (d :: others).length '=' ++ equals.dropLast =
        equals ++ List.replicate others.length '=' := by
      have one : equals.dropLast = List.replicate 1 '=' := rfl
      have two : equals = List.replicate 2 '=' := rfl
      rw [one, two, List.replicate_append_replicate, List.replicate_append_replicate,
        List.length_cons]
      congr 1
      omega
    exact absurd ⟨[], _, run.symm⟩ apart

theorem highlight_append_feed (free : '\n' ∉ line) (rest : Text) :
    highlight true (line ++ '\n' :: rest) = highlight true line := by
  have one : '\n' ∉ equals := by decide
  have read := Text.after?_line one line (Text.lines rest)
  rw [Text.afterLine_lines] at read
  by_cases marked : equals <+: line
  · obtain ⟨behind, rfl⟩ := marked
    have free : '\n' ∉ behind := fun feed => free (List.mem_append_right _ feed)
    have first := Text.firstLine_append free (Text.lines rest)
    have alone := Text.firstLine_append free []
    rw [Text.afterLine_lines] at first
    rw [Text.afterLine_nil, List.append_nil] at alone
    rw [List.append_assoc, highlight_equals, highlight_equals, first, alone]
  · rw [Text.after?_eq_none_iff.2 marked, Option.map_none, Text.after?_eq_none_iff] at read
    rw [highlight_of_unmarked marked, highlight_of_unmarked read]

theorem markHighlights_append_feed (free : '\n' ∉ line) (rest : Text) :
    Search.found highlight (line ++ '\n' :: rest) =
        Search.found highlight line ++ Search.found highlight rest ∧
      markHighlights (line ++ '\n' :: rest) =
        markHighlights line ++ '\n' :: markHighlights rest := by
  have stays : ∀ back, back ≠ [] → back <:+ line →
      highlight true (back ++ '\n' :: rest) = highlight true back ∧
        ∀ body size, highlight true back = some (body, size) → 0 < size ∧ size ≤ back.length := by
    intro back _ suffix
    refine ⟨highlight_append_feed (fun feed => free (suffix.subset feed)) rest, ?_⟩
    intro body size read
    obtain ⟨c, others, after, -, rfl, rfl, -⟩ := exists_of_highlight read
    simp only [List.length_append, equals, List.length_cons, List.length_nil]
    omega
  have unread : highlight true ('\n' :: rest) = none := rfl
  obtain ⟨founds, texts⟩ :=
    Search.append_of_stays highlight_unanchored marked stays
  obtain ⟨skipped, kept⟩ := Search.cons_of_none highlight_unanchored marked unread
  exact ⟨founds.trans (congrArg _ skipped), texts.trans (congrArg _ kept)⟩

/-- Marking brings no line feed into a line. -/
theorem notMem_markHighlights (free : '\n' ∉ line) : '\n' ∉ markHighlights line := by
  rw [markHighlights, Search.exchange]
  generalize true = flag
  fun_induction Search.exchangeFrom highlight _ flag line with
  | case1 => exact free
  | case2 flag c text unread ih =>
    rw [List.mem_cons, not_or] at free ⊢
    exact ⟨free.1, ih free.2⟩
  | case3 flag c text body size read ih =>
    obtain ⟨-, -, -, -, -, -, bodyFree, -⟩ := exists_of_highlight read
    have dropped : '\n' ∉ text.drop (size - 1) := fun feed =>
      free (List.mem_cons_of_mem c (List.mem_of_mem_drop feed))
    have markFree : '\n' ∉ ("<mark>" : Text) ∧ '\n' ∉ ("</mark>" : Text) := by decide
    simp only [List.mem_append, not_or]
    exact ⟨⟨⟨markFree.1, bodyFree⟩, markFree.2⟩, ih dropped⟩

/-- A text is marked line by line. -/
theorem found_ofLines_and_markHighlights_ofLines {ls : List Text} (h : Text.AreLines ls)
    (ne : ls ≠ []) :
    Search.found highlight (Text.ofLines ls) = ls.flatMap (Search.found highlight) ∧
      markHighlights (Text.ofLines ls) = Text.ofLines (ls.map markHighlights) := by
  induction ls with
  | nil => exact absurd rfl ne
  | cons line later ih =>
    obtain ⟨free, others⟩ := Text.areLines_cons.1 h
    by_cases alone : later = []
    · subst alone
      rw [Text.ofLines_cons, Text.afterLine_nil, List.append_nil, List.map_singleton,
        Text.ofLines_cons, Text.afterLine_nil, List.append_nil, List.flatMap_singleton]
      exact ⟨rfl, rfl⟩
    · obtain ⟨founds, texts⟩ := markHighlights_append_feed free (Text.ofLines later)
      obtain ⟨founds', texts'⟩ := ih others alone
      rw [Text.ofLines_cons_of_ne_nil line alone, founds, texts, founds', texts',
        List.flatMap_cons, List.map_cons,
        Text.ofLines_cons_of_ne_nil _ (by simpa using alone)]
      exact ⟨rfl, rfl⟩

theorem lines_markHighlights (text : Text) :
    Text.lines (markHighlights text) = (Text.lines text).map markHighlights := by
  obtain ⟨line, later, ls, whole, cut⟩ := Text.exists_lines text
  have marked := (found_ofLines_and_markHighlights_ofLines ls (List.cons_ne_nil line later)).2
  rw [cut, whole, marked, Text.lines_ofLines _ (by simp)]
  exact List.forall_mem_map.2 fun l hl => notMem_markHighlights (ls l hl)

theorem highlight_of_length_lt (short : text.length < 5) (flag : Bool) :
    highlight flag text = none := by
  cases read : highlight flag text with
  | none => rfl
  | some form =>
    obtain ⟨c, others, back, same, rfl, -⟩ := exists_of_highlight read
    simp only [same, List.length_append, equals, List.length_cons] at short
    omega

theorem markHighlights_replicate_of_lt {n : Nat} (short : n < 5) :
    markHighlights (List.replicate n '=') = List.replicate n '=' := by
  refine Search.exchange_of_none highlight_unanchored marked fun back _ suffix => ?_
  have le := suffix.length_le
  rw [List.length_replicate] at le
  exact highlight_of_length_lt (by omega) true

/-- In a run of equals signs every five signs become a marked one, and the rest is kept. -/
theorem markHighlights_replicate (n : Nat) :
    markHighlights (List.replicate n '=') =
      (List.replicate (n / 5) (marked ['='])).flatten ++ List.replicate (n % 5) '=' := by
  induction n using Nat.strongRecOn with
  | ind n ih =>
    by_cases short : n < 5
    · rw [markHighlights_replicate_of_lt short, Nat.div_eq_of_lt short, Nat.mod_eq_of_lt short]
      rfl
    · obtain ⟨m, rfl⟩ : ∃ m, n = 5 + m := ⟨n - 5, by omega⟩
      have cut : List.replicate (5 + m) '=' = fiveEquals ++ List.replicate m '=' :=
        List.replicate_append_replicate.symm
      rw [cut, (markHighlights_fiveEquals _).2, ih m (by omega), Nat.add_div_left m (by decide),
        Nat.add_mod_left, List.replicate_succ, List.flatten_cons, List.append_assoc]

section Runs

/-- All texts that are marked have a character other than an equals sign, so lines of equals signs
stay as they are. -/
structure MarksText (text : Text) : Prop where
  filled : ∀ s ∈ Search.all highlight text, ∃ c ∈ s.found, c ≠ '='
  rules : ∀ line ∈ Text.lines text, (∀ c ∈ line, c = '=') → markHighlights line = line

/-- Where five equals signs stand in a row, the first of them belongs to a highlight that begins
before them. -/
def RunsInHighlights (text : Text) : Prop :=
  ∀ n, fiveEquals <+: text.drop n → ∃ s ∈ Search.all highlight text, s.start < n ∧ n < s.stop

theorem filled_iff (text : Text) :
    (∀ s ∈ Search.all highlight text, ∃ c ∈ s.found, c ≠ '=') ↔ RunsInHighlights text := by
  constructor
  · intro filled n run
    obtain ⟨rest, same⟩ := run
    have lt : n < text.length := by
      have size := congrArg List.length same
      simp only [List.length_append, fiveEquals, List.length_replicate, List.length_drop] at size
      omega
    have read : highlight true (text.drop n) = some (['='], fiveEquals.length) := by
      rw [← same]
      exact highlight_fiveEquals rest true
    obtain ⟨s, mem, le, within, found⟩ :=
      Search.exists_mem_all_of_read highlight_unanchored lt read
    refine ⟨s, mem, Nat.lt_of_le_of_ne le fun start => ?_, within⟩
    obtain ⟨c, inside, other⟩ := filled s mem
    rw [found start] at inside
    exact other (List.mem_singleton.1 inside)
  · intro runs s mem
    by_contra signs
    have signs : ∀ c ∈ s.found, c = '=' := by simpa using signs
    obtain ⟨-, flag, size, read, -⟩ := Search.exists_read_of_mem_all mem
    obtain ⟨t, mem', lt, within⟩ := runs s.start (fiveEquals_prefix_of_highlight read signs)
    exact Nat.not_le_of_lt within (Search.stop_le_start_of_mem_all mem' mem lt)

/-- Where all texts that are marked have a character other than an equals sign, no line has five
equals signs and nothing else. -/
theorem marksText_iff_filled (text : Text) :
    MarksText text ↔ ∀ s ∈ Search.all highlight text, ∃ c ∈ s.found, c ≠ '=' := by
  refine ⟨MarksText.filled, fun filled => ⟨filled, fun line mem signs => ?_⟩⟩
  obtain ⟨n, rfl⟩ : ∃ n, line = List.replicate n '=' :=
    ⟨line.length, List.eq_replicate_iff.2 ⟨rfl, signs⟩⟩
  by_cases short : n < 5
  · exact markHighlights_replicate_of_lt short
  obtain ⟨first, later, ls, whole, cut⟩ := Text.exists_lines text
  have founds := (found_ofLines_and_markHighlights_ofLines ls (List.cons_ne_nil first later)).1
  rw [← whole, ← cut] at founds
  have cutRun : List.replicate n '=' = fiveEquals ++ List.replicate (n - 5) '=' := by
    rw [fiveEquals, List.replicate_append_replicate]
    congr 1
    omega
  have found : ['='] ∈ Search.found highlight text := by
    rw [founds, List.mem_flatMap]
    refine ⟨_, mem, ?_⟩
    rw [cutRun, (markHighlights_fiveEquals _).1]
    exact List.mem_cons_self
  obtain ⟨s, hs, same⟩ := List.mem_map.1 found
  obtain ⟨c, inside, other⟩ := filled s hs
  rw [same] at inside
  exact absurd (List.mem_singleton.1 inside) other

theorem markHighlights_replicate_eq_self_iff (n : Nat) :
    markHighlights (List.replicate n '=') = List.replicate n '=' ↔ n < 5 := by
  refine ⟨fun kept => ?_, markHighlights_replicate_of_lt⟩
  by_contra long
  obtain ⟨m, rfl⟩ : ∃ m, n = 5 + m := ⟨n - 5, by omega⟩
  have first := congrArg List.head? kept
  have tag (rest : Text) : (marked ['='] ++ rest).head? = some '<' := rfl
  rw [markHighlights_replicate, Nat.add_div_left m (by decide), List.replicate_succ,
    List.flatten_cons, List.append_assoc, tag, Nat.add_comm 5 m, List.replicate_succ,
    List.head?_cons] at first
  exact absurd first (by decide)

/-- Highlights are marked where they stand, on each line by itself. A line of equals signs is kept if
it has less than five of them. All marked texts have another character, and all such lines are kept,
exactly if five equals signs in a row begin in highlights only. -/
theorem marksText_iff (text : Text) :
    markHighlights text = Splice.behind text 0
        ((Search.all highlight text).map fun s => ((s.start, s.stop), marked s.found)) ∧
      Text.lines (markHighlights text) = (Text.lines text).map markHighlights ∧
      (∀ n, markHighlights (List.replicate n '=') = List.replicate n '=' ↔ n < 5) ∧
      (MarksText text ↔ RunsInHighlights text) :=
  ⟨(Search.behind_all marked text).symm, lines_markHighlights text,
    markHighlights_replicate_eq_self_iff, (marksText_iff_filled text).trans (filled_iff text)⟩

/-- The middle one of five equals signs below a title is marked. -/
theorem not_marksText :
    let text : Text := "Title\n====="
    markHighlights text = "Title\n<mark>=</mark>" ∧ ¬ MarksText text := by
  intro text
  have written : markHighlights text = "Title\n<mark>=</mark>" := by decide +kernel
  refine ⟨written, fun marks => ?_⟩
  have rule : fiveEquals ∈ Text.lines text := by decide +kernel
  have kept := marks.rules fiveEquals rule fun c => List.eq_of_mem_replicate
  exact absurd kept (by decide +kernel)

end Runs

end PageDirectives.Cleanup
