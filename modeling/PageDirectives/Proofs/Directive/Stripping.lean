import Mathlib.Data.List.Induction
import PageDirectives.Proofs.Directive.Leftover
import PageDirectives.Proofs.Directive.Opening
/-!
What taking leftovers away does to the lines of a text. First blocks go: a line that shows a name
opens one if a later line closes it, and up to the first such line nothing is left but one empty
line. Then what else shows a name becomes an empty line. No name is excepted from opening a block,
so a terminator that closes nothing takes all lines with it down to the next terminator.
-/
namespace PageDirectives.Directive

theorem shownName?_eq_none_iff {line : Text} :
    shownName? line = none ↔ ∀ c rest, line = mark ++ c :: rest → Text.isNameChar c = false := by
  constructor
  · rintro none c rest rfl
    rw [shownName?, Text.after?_append] at none
    cases name : Text.isNameChar c with
    | false => rfl
    | true => simp [name] at none
  · intro bare
    unfold shownName?
    cases found : Text.after? mark line with
    | none => rfl
    | some rest =>
      have written := Text.after?_eq_some found
      cases rest with
      | nil => rfl
      | cons c rest => simp [bare c rest written]

theorem shownName?_nil : shownName? [] = none := rfl

/-- A line that shows a name becomes an empty one. -/
def cleared (line : Text) : Text := if (shownName? line).isSome then [] else line

theorem cleared_of_none {line : Text} (bare : shownName? line = none) : cleared line = line := by
  simp [cleared, bare]

theorem cleared_of_some {line name : Text} (shown : shownName? line = some name) :
    cleared line = [] := by
  simp [cleared, shown]

/-- Lines with each block in them exchanged for an empty line. -/
def withoutBlocks (lines : List Text) : List Text :=
  leftoverBlockLines.exchange (fun _ => []) lines

theorem exchange_leftoverLines (lines : List Text) :
    leftoverLines.exchange (fun _ => []) lines = lines.map cleared := by
  induction lines with
  | nil => exact LineReader.exchange_nil
  | cons line later ih =>
    rw [List.map_cons, ← ih]
    cases shown : shownName? line with
    | none =>
      rw [cleared_of_none shown]
      apply LineReader.exchange_of_none
      rw [leftoverLines, shown]
      rfl
    | some name =>
      have read : leftoverLines line later = some ((), 0) := by
        rw [leftoverLines, shown]
        rfl
      rw [cleared_of_some shown, LineReader.exchange_of_some read, List.drop_zero]
      rfl

theorem lines_stripLeftovers_eq (text : Text) :
    Text.lines (stripLeftovers text) = (withoutBlocks (Text.lines text)).map cleared := by
  rw [lines_stripLeftovers, exchange_leftoverLines, withoutBlocks]

theorem leftoverBlockLines_of_none {line : Text} (later : List Text)
    (bare : shownName? line = none) : leftoverBlockLines line later = none := by
  rw [leftoverBlockLines, bare]
  rfl

theorem leftoverBlockLines_of_some {line name : Text} (later : List Text)
    (shown : shownName? line = some name) :
    leftoverBlockLines line later = (later.findIdx? closes).map fun last => ((), last + 1) := by
  rw [leftoverBlockLines, shown]
  cases later.findIdx? closes <;> rfl

theorem exists_of_leftoverBlockLines {line : Text} {later : List Text} {found : Unit} {more : Nat}
    (read : leftoverBlockLines line later = some (found, more)) :
    ∃ name last, shownName? line = some name ∧ later.findIdx? closes = some last ∧
      more = last + 1 := by
  cases shown : shownName? line with
  | none => simp [leftoverBlockLines_of_none later shown] at read
  | some name =>
    rw [leftoverBlockLines_of_some later shown, Option.map_eq_some_iff] at read
    obtain ⟨last, first, same⟩ := read
    exact ⟨name, last, rfl, first, (Prod.mk.inj same).2.symm⟩

/-- What is left of a text are some of its lines in their order, of which those that show a name are
empty now. -/
theorem exists_kept_lines (lines : List Text) :
    ∃ kept : List Text, kept.Sublist lines ∧
      (withoutBlocks lines).map cleared = kept.map cleared := by
  unfold withoutBlocks
  fun_induction leftoverBlockLines.exchange (fun _ => []) lines with
  | case1 => exact ⟨[], List.Sublist.refl _, rfl⟩
  | case2 line later unread ih =>
    obtain ⟨kept, sub, same⟩ := ih
    exact ⟨line :: kept, sub.cons_cons line, by rw [List.map_cons, same, List.map_cons]⟩
  | case3 line later found more read ih =>
    obtain ⟨kept, sub, same⟩ := ih
    obtain ⟨name, last, shown, -, -⟩ := exists_of_leftoverBlockLines read
    -- of a block its opening line is kept
    refine ⟨line :: kept, (sub.trans (List.drop_sublist more later)).cons_cons line, ?_⟩
    rw [List.map_cons, cleared_of_some shown, List.map_append, same]
    rfl

/-- Once leftovers are taken away no line shows a name, nothing is left to take away, and the lines
are some of those before, in their order, with an empty line for each that showed a name. -/
theorem stripLeftovers_clears (text : Text) :
    (∀ line ∈ Text.lines (stripLeftovers text), ∀ c rest, line = mark ++ c :: rest →
        Text.isNameChar c = false) ∧
      leftovers (stripLeftovers text) = [] ∧
      stripLeftovers (stripLeftovers text) = stripLeftovers text ∧
      ∃ kept : List Text, kept.Sublist (Text.lines text) ∧
        Text.lines (stripLeftovers text) =
          kept.map fun line => if (shownName? line).isSome then [] else line := by
  have bare : ∀ line ∈ Text.lines (stripLeftovers text), shownName? line = none := by
    rw [lines_stripLeftovers_eq]
    refine List.forall_mem_map.2 fun line _ => ?_
    cases shown : shownName? line with
    | none => rw [cleared_of_none shown, shown]
    | some name => rw [cleared_of_some shown, shownName?_nil]
  refine ⟨fun line hline => shownName?_eq_none_iff.1 (bare line hline),
    leftovers_stripLeftovers text, stripLeftovers_eq_self_iff.2 bare, ?_⟩
  rw [lines_stripLeftovers_eq]
  exact exists_kept_lines (Text.lines text)

section Open

variable {before after lines rest : List Text}

/-- Whether a block is open behind a line, given whether one is open before it. -/
def opensAfter (inside : Bool) (line : Text) : Bool :=
  if inside then !closes line else (shownName? line).isSome

/-- Whether lines leave a block open that a later line can close. -/
def leavesOpen (lines : List Text) : Bool := lines.foldl opensAfter false

/-- Lines behind the first one that closes. -/
def behindClosing : List Text → List Text
  | [] => []
  | line :: later => if closes line then later else behindClosing later

/-- What is left of one line, given whether a block is open before it. -/
def leftOf (inside : Bool) (line : Text) : List Text := if inside then [] else [cleared line]

/-- What is left of lines if a closing line follows them. -/
def sweep (inside : Bool) : List Text → List Text
  | [] => []
  | line :: later => leftOf inside line ++ sweep (opensAfter inside line) later

/-- What is left of lines, given whether a block is open before them. -/
def remaining (inside : Bool) (lines : List Text) : List Text :=
  (withoutBlocks (if inside then behindClosing lines else lines)).map cleared

theorem drop_findIdx?_closes {last : Nat} (found : lines.findIdx? closes = some last) :
    lines.drop (last + 1) = behindClosing lines := by
  induction lines generalizing last with
  | nil => simp at found
  | cons line later ih =>
    rw [List.findIdx?_cons] at found
    unfold behindClosing
    split at found
    · next closed =>
      obtain rfl := Option.some.inj found
      rw [if_pos closed]
      rfl
    · next unclosed =>
      obtain ⟨n, behind, rfl⟩ := Option.map_eq_some_iff.1 found
      rw [if_neg unclosed, List.drop_succ_cons, ih behind]

theorem remaining_true_cons (line : Text) (lines : List Text) :
    remaining true (line :: lines) = remaining (!closes line) lines := by
  cases closed : closes line <;> simp [remaining, behindClosing, closed]

theorem remaining_false_cons_of_none {line : Text} (bare : shownName? line = none)
    (lines : List Text) : remaining false (line :: lines) = line :: remaining false lines := by
  have kept : withoutBlocks (line :: lines) = line :: withoutBlocks lines :=
    LineReader.exchange_of_none (leftoverBlockLines_of_none lines bare)
  have := congrArg (List.map cleared) kept
  rwa [List.map_cons, cleared_of_none bare] at this

theorem remaining_false_cons_of_some {line name : Text} (shown : shownName? line = some name)
    (closing : ∃ l ∈ lines, closes l = true) :
    remaining false (line :: lines) = [] :: remaining true lines := by
  have some : lines.findIdx? closes ≠ none := by simpa using closing
  obtain ⟨last, found⟩ := Option.ne_none_iff_exists'.1 some
  have read := leftoverBlockLines_of_some lines shown
  rw [found, Option.map_some] at read
  have taken : withoutBlocks (line :: lines) = [] :: withoutBlocks (behindClosing lines) := by
    rw [withoutBlocks, LineReader.exchange_of_some read, drop_findIdx?_closes found]
    rfl
  exact congrArg (List.map cleared) taken

/-- As long as a closing line is to come, a line and what is open before it tell what is left of it
and what is open behind it. -/
theorem remaining_cons (closing : ∃ l ∈ lines, closes l = true) (inside : Bool) (line : Text) :
    remaining inside (line :: lines) =
      leftOf inside line ++ remaining (opensAfter inside line) lines := by
  cases inside with
  | true => exact remaining_true_cons line lines
  | false =>
    rw [leftOf, opensAfter, if_neg Bool.false_ne_true, if_neg Bool.false_ne_true]
    cases shown : shownName? line with
    | none =>
      rw [cleared_of_none shown]
      exact remaining_false_cons_of_none shown lines
    | some name =>
      rw [cleared_of_some shown]
      exact remaining_false_cons_of_some shown closing

theorem remaining_append (closing : ∃ l ∈ rest, closes l = true) (inside : Bool)
    (front : List Text) :
    remaining inside (front ++ rest) =
      sweep inside front ++ remaining (front.foldl opensAfter inside) rest := by
  induction front generalizing inside with
  | nil => rfl
  | cons line later ih =>
    obtain ⟨l, hl, closed⟩ := closing
    rw [List.cons_append, remaining_cons ⟨l, List.mem_append_right later hl, closed⟩, ih, sweep,
      List.append_assoc, List.foldl_cons]

theorem withoutBlocks_of_forall (unclosed : ∀ l ∈ lines, closes l = false) :
    withoutBlocks lines = lines := by
  induction lines with
  | nil => exact LineReader.exchange_nil
  | cons line later ih =>
    rw [List.forall_mem_cons] at unclosed
    have unread : leftoverBlockLines line later = none := by
      cases shown : shownName? line with
      | none => exact leftoverBlockLines_of_none later shown
      | some name =>
        rw [leftoverBlockLines_of_some later shown, List.findIdx?_eq_none_iff.2 unclosed.2]
        rfl
    exact (LineReader.exchange_of_none unread).trans (congrArg (line :: ·) (ih unclosed.2))

/-- Lines of which none closes change nothing in the blocks before them. -/
theorem leftoverBlockLines_append (unclosed : ∀ l ∈ rest, closes l = false) (line : Text)
    (later : List Text) :
    leftoverBlockLines line (later ++ rest) = leftoverBlockLines line later := by
  cases shown : shownName? line with
  | none => rw [leftoverBlockLines_of_none _ shown, leftoverBlockLines_of_none _ shown]
  | some name =>
    rw [leftoverBlockLines_of_some _ shown, leftoverBlockLines_of_some _ shown,
      List.findIdx?_append, List.findIdx?_eq_none_iff.2 unclosed, Option.map_none, Option.or_none]

theorem withoutBlocks_append (unclosed : ∀ l ∈ rest, closes l = false) (front : List Text) :
    withoutBlocks (front ++ rest) = withoutBlocks front ++ rest := by
  unfold withoutBlocks
  fun_induction leftoverBlockLines.exchange (fun _ => []) front with
  | case1 => exact withoutBlocks_of_forall unclosed
  | case2 line later unread ih =>
    rw [← leftoverBlockLines_append unclosed] at unread
    rw [List.cons_append, LineReader.exchange_of_none unread, ih, List.cons_append]
  | case3 line later found more read ih =>
    obtain ⟨name, last, -, first, same⟩ := exists_of_leftoverBlockLines read
    -- a block of the front ends in the front
    have within : more ≤ later.length := by
      have := (List.findIdx?_eq_some_iff_getElem.1 first).1
      omega
    rw [← leftoverBlockLines_append unclosed] at read
    rw [List.cons_append, LineReader.exchange_of_some read, List.drop_append_of_le_length within,
      ih, List.append_assoc]

end Open

section Places

variable {before after front inner : List Text} {line opener : Text}

theorem leavesOpen_append (front inner : List Text) :
    leavesOpen (front ++ inner) = inner.foldl opensAfter (leavesOpen front) := List.foldl_append

theorem foldl_opensAfter_true (unclosed : ∀ l ∈ inner, closes l = false) :
    inner.foldl opensAfter true = true := by
  induction inner with
  | nil => rfl
  | cons line later ih =>
    rw [List.forall_mem_cons] at unclosed
    rw [List.foldl_cons, opensAfter, if_pos rfl, unclosed.1]
    exact ih unclosed.2

theorem leavesOpen_of_opener {name : Text} (shown : shownName? opener = some name)
    (may : leavesOpen front = true → closes opener = false)
    (unclosed : ∀ l ∈ inner, closes l = false) : leavesOpen (front ++ opener :: inner) = true := by
  have opens : opensAfter (leavesOpen front) opener = true := by
    unfold opensAfter
    cases inside : leavesOpen front with
    | false => simp [shown]
    | true => simp [may inside]
  rw [leavesOpen_append, List.foldl_cons, opens]
  exact foldl_opensAfter_true unclosed

/-- Lines leave a block open if one of them shows a name where none is open and none closes from
there on. -/
theorem exists_opener_of_leavesOpen (h : leavesOpen before = true) :
    ∃ front opener inner name, before = front ++ opener :: inner ∧ leavesOpen front = false ∧
      shownName? opener = some name ∧ ∀ l ∈ inner, closes l = false := by
  -- from the end, since the last line decides whether a block is open behind it
  induction before using List.reverseRecOn with
  | nil => exact absurd h Bool.false_ne_true
  | append_singleton lines line ih =>
    rw [leavesOpen_append, List.foldl_cons, List.foldl_nil, opensAfter] at h
    cases inside : leavesOpen lines with
    | false =>
      rw [inside, if_neg Bool.false_ne_true] at h
      obtain ⟨name, shown⟩ := Option.isSome_iff_exists.1 h
      exact ⟨lines, line, [], name, rfl, inside, shown, by simp⟩
    | true =>
      rw [inside, if_pos rfl, Bool.not_eq_true'] at h
      obtain ⟨front, opener, inner, name, rfl, closed, shown, unclosed⟩ := ih inside
      refine ⟨front, opener, inner ++ [line], name, by simp, closed, shown, ?_⟩
      exact List.forall_mem_append.2 ⟨unclosed, List.forall_mem_singleton.2 h⟩

/-- A place in a block: above it stands a line that shows a name other than the terminator and from
there on no line closes, and below some line does. -/
def InBlock (before after : List Text) : Prop :=
  (∃ front opener inner name, before = front ++ opener :: inner ∧ shownName? opener = some name ∧
    name ≠ terminator ∧ ∀ l ∈ inner, closes l = false) ∧ ∃ l ∈ after, closes l = true

/-- A place behind a terminator that has nothing to close: no block is open at the terminator, from
there on no line closes or shows another name, and below the place some line closes. -/
def BehindStray (before after : List Text) : Prop :=
  (∃ front stray inner, before = front ++ stray :: inner ∧ leavesOpen front = false ∧
    shownName? stray = some terminator ∧ ∀ l ∈ inner, closes l = false ∧
      ∀ name, shownName? l = some name → name = terminator) ∧ ∃ l ∈ after, closes l = true

theorem shownName?_of_closes (closed : closes line = true) : shownName? line = some terminator := by
  obtain ⟨blanks, rfl, blank⟩ := closes_iff.1 closed
  exact shownName?_openingLine (by decide) (nameEnds_of_blanks blank)

theorem closes_of_shownName? {name : Text} (shown : shownName? line = some name)
    (other : name ≠ terminator) : closes line = false := by
  rw [Bool.eq_false_iff]
  intro closed
  exact other (Option.some.inj (shown.symm.trans (shownName?_of_closes closed)))

theorem leavesOpen_of_inBlock (h : InBlock before after) : leavesOpen before = true := by
  obtain ⟨⟨front, opener, inner, name, rfl, shown, other, unclosed⟩, -⟩ := h
  exact leavesOpen_of_opener shown (fun _ => closes_of_shownName? shown other) unclosed

theorem leavesOpen_of_behindStray (h : BehindStray before after) : leavesOpen before = true := by
  obtain ⟨⟨front, stray, inner, rfl, closed, shown, inside⟩, -⟩ := h
  refine leavesOpen_of_opener shown (fun inside => ?_) fun l hl => (inside l hl).1
  rw [closed] at inside
  exact absurd inside Bool.false_ne_true

theorem inBlock_or_behindStray (h : leavesOpen before = true)
    (closing : ∃ l ∈ after, closes l = true) : InBlock before after ∨ BehindStray before after := by
  obtain ⟨front, opener, inner, name, rfl, closed, shown, unclosed⟩ := exists_opener_of_leavesOpen h
  by_cases stray : name = terminator
  · subst stray
    by_cases only : ∀ l ∈ inner, ∀ name, shownName? l = some name → name = terminator
    · exact .inr ⟨⟨front, opener, inner, rfl, closed, shown,
        fun l hl => ⟨unclosed l hl, only l hl⟩⟩, closing⟩
    · -- a line behind the terminator shows another name
      push Not at only
      obtain ⟨l, hl, name, shown', other⟩ := only
      obtain ⟨upper, lower, rfl⟩ := List.append_of_mem hl
      refine .inl ⟨⟨front ++ opener :: upper, l, lower, name, by simp, shown', other, ?_⟩, closing⟩
      exact fun l hl => unclosed l (by simp [hl])
  · exact .inl ⟨⟨front, opener, inner, name, rfl, shown, stray, unclosed⟩, closing⟩

theorem not_inBlock_of_behindStray (h : BehindStray before after) : ¬ InBlock before after := by
  obtain ⟨⟨front, stray, inner, rfl, closed, shown, inside⟩, -⟩ := h
  rintro ⟨⟨front', opener, inner', name, same, shown', other, unclosed⟩, -⟩
  have apart : opener ∉ stray :: inner := by
    intro mem
    rcases List.mem_cons.1 mem with rfl | mem
    · exact other (Option.some.inj (shown'.symm.trans shown))
    · exact other ((inside opener mem).2 name shown')
  rcases List.append_eq_append_iff.1 same with ⟨upper, -, cut⟩ | ⟨upper, rfl, cut⟩
  · exact apart (cut ▸ List.mem_append_right upper List.mem_cons_self)
  · cases upper with
    | nil =>
      obtain ⟨rfl, -⟩ := List.cons.inj cut
      exact apart List.mem_cons_self
    | cons first upper =>
      -- the block that opens above the terminator is open at it
      obtain ⟨rfl, rfl⟩ := List.cons.inj cut
      have opened : leavesOpen (front' ++ opener :: upper) = true :=
        leavesOpen_of_opener shown' (fun _ => closes_of_shownName? shown' other) fun l hl =>
          unclosed l (List.mem_append_left _ hl)
      rw [closed] at opened
      exact absurd opened Bool.false_ne_true

/-- What stands at a place is taken away: a line there makes no difference, whatever it says, as
long as it does not start as a directive does. -/
def Deletes (before after : List Text) : Prop :=
  ∃ out, ∀ line, '\n' ∉ line → isMarked line = false →
    stripLeftovers (Text.ofLines (before ++ line :: after)) = out

/-- What stands at a place is kept: a line there is one of the lines that are left, between the same
others, whatever it says. -/
def Keeps (before after : List Text) : Prop :=
  ∃ above below, ∀ line, '\n' ∉ line → isMarked line = false →
    Text.lines (stripLeftovers (Text.ofLines (before ++ line :: after))) = above ++ line :: below

theorem Keeps.not_deletes (h : Keeps before after) : ¬ Deletes before after := by
  obtain ⟨above, below, kept⟩ := h
  rintro ⟨out, deleted⟩
  have empty := kept [] (by simp) rfl
  have letter := kept ['a'] (by decide) (by decide)
  rw [deleted [] (by simp) rfl] at empty
  rw [deleted ['a'] (by decide) (by decide), empty, List.append_cancel_left_eq] at letter
  exact absurd (List.cons.inj letter).1 (List.cons_ne_nil 'a' []).symm

theorem lines_stripLeftovers_ofLines {lines : List Text} (ls : Text.AreLines lines)
    (ne : lines ≠ []) :
    Text.lines (stripLeftovers (Text.ofLines lines)) = remaining false lines := by
  rw [lines_stripLeftovers_eq, Text.lines_ofLines ls ne]
  rfl

theorem areLines_insert (ls : Text.AreLines (before ++ after)) (free : '\n' ∉ line) :
    Text.AreLines (before ++ line :: after) := by
  rw [Text.areLines_append] at ls
  exact Text.areLines_append.2 ⟨ls.1, Text.areLines_cons.2 ⟨free, ls.2⟩⟩

theorem areLines_around {text : Text} (written : Text.lines text = before ++ line :: after) :
    Text.AreLines (before ++ after) := by
  have whole := Text.areLines_lines text
  rw [written, Text.areLines_append, Text.areLines_cons] at whole
  exact Text.areLines_append.2 ⟨whole.1, whole.2.2⟩

theorem deletes_of_leavesOpen (ls : Text.AreLines (before ++ after))
    (opened : leavesOpen before = true) (closing : ∃ l ∈ after, closes l = true) :
    Deletes before after := by
  refine ⟨Text.ofLines (sweep false before ++ remaining true after), fun line free unmarked => ?_⟩
  have whole := areLines_insert ls free
  obtain ⟨l, hl, closed⟩ := closing
  rw [← Text.ofLines_lines (stripLeftovers _), lines_stripLeftovers_ofLines whole (by simp),
    remaining_append ⟨l, List.mem_cons_of_mem line hl, closed⟩, ← leavesOpen, opened,
    remaining_true_cons, closes_of_not_marked unmarked]
  rfl

theorem keeps_of_closed (ls : Text.AreLines (before ++ after)) (closed : leavesOpen before = false)
    (closing : ∃ l ∈ after, closes l = true) : Keeps before after := by
  refine ⟨sweep false before, remaining false after, fun line free unmarked => ?_⟩
  have whole := areLines_insert ls free
  obtain ⟨l, hl, closed'⟩ := closing
  rw [lines_stripLeftovers_ofLines whole (by simp),
    remaining_append ⟨l, List.mem_cons_of_mem line hl, closed'⟩, ← leavesOpen, closed,
    remaining_false_cons_of_none (shownName?_of_not_marked unmarked)]

theorem keeps_of_forall (ls : Text.AreLines (before ++ after))
    (unclosed : ∀ l ∈ after, closes l = false) : Keeps before after := by
  refine ⟨(withoutBlocks before).map cleared, after.map cleared, fun line free unmarked => ?_⟩
  have whole := areLines_insert ls free
  have behind : ∀ l ∈ line :: after, closes l = false :=
    List.forall_mem_cons.2 ⟨closes_of_not_marked unmarked, unclosed⟩
  rw [lines_stripLeftovers_ofLines whole (by simp), remaining, if_neg Bool.false_ne_true,
    withoutBlocks_append behind, List.map_append, List.map_cons,
    cleared_of_none (shownName?_of_not_marked unmarked)]

theorem keeps_or_deletes (ls : Text.AreLines (before ++ after)) :
    (Keeps before after ∧ ¬ (InBlock before after ∨ BehindStray before after)) ∨
      (Deletes before after ∧ (InBlock before after ∨ BehindStray before after)) := by
  by_cases closing : ∃ l ∈ after, closes l = true
  · cases opened : leavesOpen before with
    | true =>
      exact .inr ⟨deletes_of_leavesOpen ls opened closing, inBlock_or_behindStray opened closing⟩
    | false =>
      refine .inl ⟨keeps_of_closed ls opened closing, ?_⟩
      rintro (inside | behind)
      · exact absurd (leavesOpen_of_inBlock inside) (by simp [opened])
      · exact absurd (leavesOpen_of_behindStray behind) (by simp [opened])
  · refine .inl ⟨keeps_of_forall ls (by simpa using closing), ?_⟩
    rintro (⟨-, closing'⟩ | ⟨-, closing'⟩) <;> exact closing closing'

/-- Of the lines that do not start as a directive does, only such are taken away as stand in a block
of a name other than the terminator. -/
def DeletesOnlyBlocks (text : Text) : Prop :=
  ∀ before line after, Text.lines text = before ++ line :: after → isMarked line = false →
    Deletes before after → InBlock before after

/-- A line that does not start as a directive does is taken away if it stands in a block or behind a
terminator with nothing to close, and kept otherwise. So blocks are all that is taken away if and
only if no such line stands behind a terminator with nothing to close. -/
theorem deletesOnlyBlocks_iff (text : Text) :
    (∀ before line after, Text.lines text = before ++ line :: after → isMarked line = false →
      (Deletes before after ↔ InBlock before after ∨ BehindStray before after) ∧
        (Keeps before after ↔ ¬ Deletes before after)) ∧
      (DeletesOnlyBlocks text ↔ ∀ before line after, Text.lines text = before ++ line :: after →
        isMarked line = false → ¬ BehindStray before after) := by
  have deletes {before line after} (written : Text.lines text = before ++ line :: after) :
      (Deletes before after ↔ InBlock before after ∨ BehindStray before after) ∧
        (Keeps before after ↔ ¬ Deletes before after) := by
    rcases keeps_or_deletes (areLines_around written) with ⟨kept, outside⟩ | ⟨deleted, inside⟩
    · exact ⟨iff_of_false kept.not_deletes outside, iff_of_true kept kept.not_deletes⟩
    · exact ⟨iff_of_true deleted inside,
        iff_of_false (fun kept => kept.not_deletes deleted) (not_not_intro deleted)⟩
  refine ⟨fun _ _ _ written _ => deletes written, ?_⟩
  constructor
  · intro only before line after written unmarked behind
    exact not_inBlock_of_behindStray behind
      (only before line after written unmarked ((deletes written).1.2 (.inr behind)))
  · intro none before line after written unmarked deleted
    exact ((deletes written).1.1 deleted).resolve_right (none before line after written unmarked)

/-- A line between a terminator with nothing to close and a block is taken away with the block. -/
theorem not_deletesOnlyBlocks :
    let text : Text := "::end\ntext\n::x\nb\n::end"
    stripLeftovers text = [] ∧ Text.lines text = ["::end".toList] ++ "text".toList ::
        ["::x".toList, "b".toList, "::end".toList] ∧
      Deletes ["::end".toList] ["::x".toList, "b".toList, "::end".toList] ∧
      ¬ DeletesOnlyBlocks text := by
  intro text
  have written : Text.lines text = ["::end".toList] ++ "text".toList ::
      ["::x".toList, "b".toList, "::end".toList] := by decide +kernel
  have behind : BehindStray ["::end".toList] ["::x".toList, "b".toList, "::end".toList] :=
    ⟨⟨[], "::end".toList, [], rfl, rfl, by decide +kernel, by simp⟩, "::end".toList, by simp,
      by decide⟩
  have deleted : Deletes ["::end".toList] ["::x".toList, "b".toList, "::end".toList] :=
    deletes_of_leavesOpen (areLines_around written) (leavesOpen_of_behindStray behind) behind.2
  refine ⟨by decide +kernel, written, deleted, fun only => ?_⟩
  exact not_inBlock_of_behindStray behind (only _ _ _ written (by decide) deleted)

end Places

end PageDirectives.Directive
