import PageDirectives.Proofs.Directive.Sections
import PageDirectives.Text.Search
/-!
Sections and delimiter lines. A cut takes the line feeds on both sides of a delimiter line, and the
second of them is also the first of the line below. So where two delimiter lines follow each other,
the lower one is not cut at and stays in the section below. Sections are the runs of lines between
delimiter lines exactly where that does not happen, or where trimming takes the rest away again.
-/
namespace PageDirectives

namespace Text

/-- How many characters of a text are no blanks. -/
def weight (text : Text) : Nat := text.countP (!isBlank ·)

theorem weight_append (front back : Text) : weight (front ++ back) = weight front + weight back :=
  List.countP_append

theorem weight_eq_zero_iff {text : Text} : weight text = 0 ↔ isAllBlank text = true := by
  simp [weight, isAllBlank, List.countP_eq_zero]

theorem weight_trim (text : Text) : weight (trim text) = weight text := by
  obtain ⟨back, blank, cut⟩ := exists_trim text
  have front0 : weight (text.takeWhile isBlank) = 0 := weight_eq_zero_iff.2 List.all_takeWhile
  have back0 : weight back = 0 := weight_eq_zero_iff.2 (List.all_eq_true.2 blank)
  have whole := congrArg weight cut
  rw [weight_append, weight_append, front0, back0] at whole
  omega

theorem weight_ofLines (ls : List Text) : weight (ofLines ls) = weight ls.flatten := by
  cases ls with
  | nil => rfl
  | cons line later =>
    rw [ofLines_cons, weight_append, List.flatten_cons, weight_append]
    congr 1
    induction later with
    | nil => rfl
    | cons next later ih =>
      have feed : weight ('\n' :: next) = weight next := List.countP_cons_of_neg (by decide)
      rw [afterLine, List.flatMap_cons, weight_append, ← afterLine, ih, feed, List.flatten_cons,
        weight_append]

end Text

namespace Section

variable {delimiter text : Text}

/-- The runs of lines from a line on that stands below another: a delimiter line ends a run if there
is a further line. -/
def runsBelow (delimiter : Text) : List Text → List (List Text)
  | [] => [[]]
  | [last] => [[last]]
  | line :: next :: later =>
    if line = delimiter then [] :: runsBelow delimiter (next :: later)
    else (runsBelow delimiter (next :: later)).modifyHead (line :: ·)

/-- The runs of lines between the delimiter lines that stand between two other lines. -/
def runs (delimiter : Text) : List Text → List (List Text)
  | [] => []
  | first :: later => (runsBelow delimiter later).modifyHead (first :: ·)

/-- Runs of lines as texts, trimmed, without those that are blank. -/
def ofRuns (runs : List (List Text)) : List Text :=
  (runs.map fun run => Text.trim (Text.ofLines run)).filter (· != [])

/-- The runs that cutting leaves: with a delimiter line goes the line feed above the next line, so
this one belongs to the run below whatever it says. -/
def cutsBelow (delimiter : Text) : List Text → List (List Text)
  | [] => [[]]
  | [last] => [[last]]
  | line :: next :: later =>
    if line = delimiter then [] :: (cutsBelow delimiter later).modifyHead (next :: ·)
    else (cutsBelow delimiter (next :: later)).modifyHead (line :: ·)

theorem runsBelow_ne_nil (delimiter : Text) (later : List Text) : runsBelow delimiter later ≠ [] := by
  fun_induction runsBelow delimiter later with
  | case1 => simp
  | case2 => simp
  | case3 => simp
  | case4 line next later other ih => simpa [List.modifyHead_eq_nil_iff] using ih

theorem cutsBelow_ne_nil (delimiter : Text) (later : List Text) : cutsBelow delimiter later ≠ [] := by
  fun_induction cutsBelow delimiter later with
  | case1 => simp
  | case2 => simp
  | case3 => simp
  | case4 line next later other ih => simpa [List.modifyHead_eq_nil_iff] using ih

theorem map_ofLines_modifyHead (front line : Text) {runs : List (List Text)} :
    ((runs.modifyHead (line :: ·)).modifyHead (front :: ·)).map Text.ofLines =
      (runs.modifyHead ((front ++ '\n' :: line) :: ·)).map Text.ofLines := by
  cases runs with
  | nil => rfl
  | cons run runs =>
    simp [Text.ofLines_cons, Text.afterLine_cons]

/-- Behind a front without a delimiter line below its first line, the next line is not cut at as
long as no line follows it. -/
theorem not_infix_append_feed (free : '\n' ∉ delimiter) {front back : Text}
    (whole : delimiter ∉ (Text.lines front).tail) (free' : '\n' ∉ back) :
    ¬ separator delimiter <:+: front ++ '\n' :: back := by
  intro divided
  have inner := (Text.mem_innerLines_iff free).2 divided
  rw [Text.innerLines_append_feed free'] at inner
  exact whole inner

/-- What a text is cut into behind a front in which nothing is cut at. -/
theorem splitAll_append_afterLine (free : '\n' ∉ delimiter) {later : List Text}
    (ls : Text.AreLines later) {front : Text} (whole : delimiter ∉ (Text.lines front).tail) :
    Text.splitAll (separator delimiter) (front ++ Text.afterLine later) =
      ((cutsBelow delimiter later).modifyHead (front :: ·)).map Text.ofLines := by
  fun_induction cutsBelow delimiter later generalizing front with
  | case1 =>
    have none : ¬ separator delimiter <:+: front := fun divided =>
      not_infix_append_feed free whole free (divided.trans (List.prefix_append _ _).isInfix)
    rw [Text.afterLine_nil, List.append_nil,
      Text.splitAll_of_none (Text.cut?_eq_none_iff.2 none)]
    simp [Text.ofLines_cons]
  | case2 last =>
    have none := not_infix_append_feed free whole (Text.areLines_cons.1 ls).1
    rw [Text.afterLine_cons, Text.ofLines_cons, Text.afterLine_nil, List.append_nil,
      Text.splitAll_of_none (Text.cut?_eq_none_iff.2 none)]
    simp [Text.ofLines_cons, Text.afterLine_cons]
  | case3 next later ih =>
    obtain ⟨nextFree, behind⟩ := Text.areLines_cons.1 (Text.areLines_cons.1 ls).2
    have cut : front ++ Text.afterLine (delimiter :: next :: later) =
        front ++ (separator delimiter ++ (next ++ Text.afterLine later)) := by
      simp [Text.afterLine_cons, Text.ofLines_cons, separator]
    have first : ¬ separator delimiter <:+: front ++ (separator delimiter).dropLast := by
      rw [dropLast_separator]
      exact not_infix_append_feed free whole free
    -- the next line follows the cut at once, so nothing can be cut at it
    rw [cut, Text.splitAll_of_some separator_ne_nil (Text.cut?_append first _),
      ih behind (by simp [Text.lines_of_notMem nextFree])]
    simp [Text.ofLines_cons]
  | case4 line next later other ih =>
    obtain ⟨lineFree, behind⟩ := Text.areLines_cons.1 ls
    have grown : front ++ Text.afterLine (line :: next :: later) =
        (front ++ '\n' :: line) ++ Text.afterLine (next :: later) := by
      rw [Text.afterLine_cons, Text.ofLines_cons, List.append_assoc, List.cons_append]
    have whole' : delimiter ∉ (Text.lines (front ++ '\n' :: line)).tail := by
      rw [Text.tail_lines_append_feed, Text.lines_of_notMem lineFree, List.mem_append, not_or]
      exact ⟨whole, by simpa using Ne.symm other⟩
    rw [grown, ih behind whole', map_ofLines_modifyHead]

/-- The runs of lines that cutting a text leaves. -/
def cuts (delimiter : Text) : List Text → List (List Text)
  | [] => []
  | first :: later => (cutsBelow delimiter later).modifyHead (first :: ·)

theorem ofText_eq_ofRuns_cuts (free : '\n' ∉ delimiter) (text : Text) :
    ofText delimiter text = ofRuns (cuts delimiter (Text.lines text)) := by
  obtain ⟨first, later, ls, whole, same⟩ := Text.exists_lines text
  obtain ⟨firstFree, behind⟩ := Text.areLines_cons.1 ls
  have whole' : delimiter ∉ (Text.lines first).tail := by simp [Text.lines_of_notMem firstFree]
  have split := splitAll_append_afterLine free behind whole'
  rw [← Text.ofLines_cons, ← whole] at split
  rw [ofText_eq, split, same, cuts, ofRuns, List.map_map]
  rfl

section Alike

/-- Where no two delimiter lines follow each other, cutting leaves the runs between them. -/
theorem cutsBelow_eq_runsBelow {later : List Text}
    (apart : ¬ [delimiter, delimiter] <:+: later.dropLast) :
    cutsBelow delimiter later = runsBelow delimiter later := by
  fun_induction cutsBelow delimiter later with
  | case1 => rfl
  | case2 last => rfl
  | case3 next later ih =>
    cases later with
    | nil => simp [cutsBelow, runsBelow]
    | cons next' later =>
      rw [List.dropLast_cons_cons, List.dropLast_cons_cons] at apart
      have other : next ≠ delimiter := by
        rintro rfl
        exact apart ⟨[], (next' :: later).dropLast, rfl⟩
      have behind : ¬ [delimiter, delimiter] <:+: (next' :: later).dropLast := fun inside =>
        apart ((inside.trans (List.suffix_cons next _).isInfix).trans
          (List.suffix_cons delimiter _).isInfix)
      rw [ih behind, runsBelow, if_pos rfl, runsBelow, if_neg other]
  | case4 line next later other ih =>
    rw [List.dropLast_cons_cons] at apart
    have behind : ¬ [delimiter, delimiter] <:+: (next :: later).dropLast := fun inside =>
      apart (inside.trans (List.suffix_cons line _).isInfix)
    rw [ih behind, runsBelow, if_neg other]

theorem ofRuns_cons (run : List Text) (runs : List (List Text)) :
    ofRuns (run :: runs) =
      (if Text.trim (Text.ofLines run) = [] then [] else [Text.trim (Text.ofLines run)]) ++
        ofRuns runs := by
  by_cases blank : Text.trim (Text.ofLines run) = [] <;> simp [ofRuns, blank]

theorem trim_ofLines_cons_blank (blank : Text.isAllBlank delimiter = true) (run : List Text) :
    Text.trim (Text.ofLines (delimiter :: run)) = Text.trim (Text.ofLines run) := by
  have blanks : ∀ c ∈ delimiter, Text.isBlank c = true := List.all_eq_true.1 blank
  cases run with
  | nil =>
    rw [Text.ofLines_cons, Text.afterLine_nil, List.append_nil, Text.trim_eq_nil_iff.2 blanks]
    rfl
  | cons line run =>
    have front : ∀ c ∈ delimiter ++ ['\n'], Text.isBlank c = true :=
      List.forall_mem_append.2 ⟨blanks, List.forall_mem_singleton.2 rfl⟩
    have cut : Text.ofLines (delimiter :: line :: run) =
        (delimiter ++ ['\n']) ++ Text.ofLines (line :: run) := by
      rw [Text.ofLines_cons, Text.afterLine_cons, List.append_assoc, List.singleton_append]
    rw [cut, Text.trim, Text.trimStart_blank_append front, ← Text.trim]

/-- Above a run it makes no difference whether a blank delimiter line ends a run or begins one. -/
theorem ofRuns_runsBelow_cons (blank : Text.isAllBlank delimiter = true) (line : Text)
    (later : List Text) :
    ofRuns (runsBelow delimiter (line :: later)) =
      ofRuns ((runsBelow delimiter later).modifyHead (line :: ·)) := by
  cases later with
  | nil => rfl
  | cons next later =>
    rw [runsBelow]
    split
    · next same =>
      obtain ⟨run, others, runs⟩ :=
        List.exists_cons_of_ne_nil (runsBelow_ne_nil delimiter (next :: later))
      have nothing : Text.trim (Text.ofLines []) = [] := rfl
      rw [runs, List.modifyHead_cons, ofRuns_cons, if_pos nothing, List.nil_append, ofRuns_cons,
        ofRuns_cons, same, trim_ofLines_cons_blank blank]
    · rfl

/-- Blank delimiter lines that are not cut at leave nothing behind trimming. -/
theorem ofRuns_cutsBelow_of_blank (blank : Text.isAllBlank delimiter = true)
    (front later : List Text) :
    ofRuns ((cutsBelow delimiter later).modifyHead (front ++ ·)) =
      ofRuns ((runsBelow delimiter later).modifyHead (front ++ ·)) := by
  fun_induction cutsBelow delimiter later generalizing front with
  | case1 => rfl
  | case2 last => rfl
  | case3 next later ih =>
    rw [runsBelow, if_pos rfl, List.modifyHead_cons, List.modifyHead_cons, ofRuns_cons, ofRuns_cons,
      ofRuns_runsBelow_cons blank]
    exact congrArg _ (ih [next])
  | case4 line next later other ih =>
    have grown (runs : List (List Text)) :
        (runs.modifyHead (line :: ·)).modifyHead (front ++ ·) =
          runs.modifyHead ((front ++ [line]) ++ ·) := by
      cases runs <;> simp
    rw [runsBelow, if_neg other, grown, grown]
    exact ih (front ++ [line])

end Alike

section Apart

/-- How many characters of runs of lines are no blanks. -/
def weight (runs : List (List Text)) : Nat := Text.weight runs.flatten.flatten

theorem weight_cons (run : List Text) (runs : List (List Text)) :
    weight (run :: runs) = Text.weight run.flatten + weight runs := by
  rw [weight, List.flatten_cons, List.flatten_append, Text.weight_append, weight]

theorem weight_modifyHead_cons (line : Text) {runs : List (List Text)} (ne : runs ≠ []) :
    weight (runs.modifyHead (line :: ·)) = Text.weight line + weight runs := by
  obtain ⟨run, others, rfl⟩ := List.exists_cons_of_ne_nil ne
  rw [List.modifyHead_cons, weight_cons, weight_cons, List.flatten_cons, Text.weight_append,
    Nat.add_assoc]

/-- Sections keep all of their runs but blanks. -/
theorem weight_ofRuns (runs : List (List Text)) :
    Text.weight (ofRuns runs).flatten = weight runs := by
  induction runs with
  | nil => rfl
  | cons run runs ih =>
    have own : Text.weight (Text.trim (Text.ofLines run)) = Text.weight run.flatten := by
      rw [Text.weight_trim, Text.weight_ofLines]
    rw [ofRuns_cons, List.flatten_append, Text.weight_append, ih, weight_cons, ← own]
    split
    · next blank => rw [blank]; rfl
    · rw [List.flatten_singleton]

/-- Cutting keeps as much as the runs between delimiter lines, and a delimiter more where two of its
lines follow each other. -/
theorem weight_runsBelow_le (delimiter : Text) (later : List Text) :
    weight (runsBelow delimiter later) ≤ weight (cutsBelow delimiter later) ∧
      ([delimiter, delimiter] <:+: later.dropLast →
        weight (runsBelow delimiter later) + Text.weight delimiter ≤
          weight (cutsBelow delimiter later)) := by
  fun_induction cutsBelow delimiter later with
  | case1 => simp [runsBelow]
  | case2 last => simp [runsBelow]
  | case3 next later ih =>
    obtain ⟨le, more⟩ := ih
    rw [runsBelow, if_pos rfl, weight_cons, weight_cons,
      weight_modifyHead_cons next (cutsBelow_ne_nil delimiter later)]
    cases later with
    | nil => simp [runsBelow, cutsBelow, weight, List.infix_cons_iff]
    | cons next' later =>
      rw [runsBelow]
      split
      · next same =>
        have nothing : Text.weight (List.flatten []) = 0 := rfl
        rw [weight_cons, same, nothing]
        omega
      · next other =>
        rw [weight_modifyHead_cons next (runsBelow_ne_nil delimiter _)]
        refine ⟨by omega, fun inside => ?_⟩
        rw [List.dropLast_cons_cons, List.dropLast_cons_cons, List.infix_cons_iff,
          List.infix_cons_iff] at inside
        have behind : [delimiter, delimiter] <:+: (next' :: later).dropLast := by
          simpa [Ne.symm other] using inside
        have := more behind
        omega
  | case4 line next later other ih =>
    obtain ⟨le, more⟩ := ih
    rw [runsBelow, if_neg other, weight_modifyHead_cons line (runsBelow_ne_nil delimiter _),
      weight_modifyHead_cons line (cutsBelow_ne_nil delimiter _)]
    refine ⟨by omega, fun inside => ?_⟩
    rw [List.dropLast_cons_cons, List.infix_cons_iff] at inside
    have behind : [delimiter, delimiter] <:+: (next :: later).dropLast := by
      simpa [Ne.symm other] using inside
    have := more behind
    omega

end Apart

section Places

/-- Pieces that a mark stands between, each at its place in the text they make. -/
def placesFrom (mark : Text) (offset : Nat) : List Text → List (Located Text)
  | [] => []
  | piece :: pieces =>
    ⟨offset, offset + piece.length, piece⟩ ::
      placesFrom mark (offset + piece.length + mark.length) pieces

/-- A piece of a text without the blanks around it. -/
def trimmed (s : Located Text) : Located Text :=
  let start := s.start + (s.found.takeWhile Text.isBlank).length
  ⟨start, start + (Text.trim s.found).length, Text.trim s.found⟩

/-- The sections of a text, each at its place in it. -/
def places (delimiter text : Text) : List (Located Text) :=
  ((placesFrom (separator delimiter) 0 (Text.splitAll (separator delimiter) text)).map
    trimmed).filter (·.found != [])

/-- A section holds a line of a text that is the delimiter: a line feed of the text stands before it
and behind it. -/
def HoldsDelimiter (delimiter text : Text) (s : Located Text) : Prop :=
  ∃ front back, s.found = front ++ delimiter ++ back ∧
    (text.take (s.start + front.length)).getLast? = some '\n' ∧
    (text.drop (s.start + front.length + delimiter.length)).head? = some '\n'

theorem map_found_placesFrom (mark : Text) (offset : Nat) (pieces : List Text) :
    (placesFrom mark offset pieces).map (·.found) = pieces := by
  induction pieces generalizing offset with
  | nil => rfl
  | cons piece pieces ih => rw [placesFrom, List.map_cons, ih]

theorem map_found_places (delimiter text : Text) :
    (places delimiter text).map (·.found) = ofText delimiter text := by
  have pieces := map_found_placesFrom (separator delimiter) 0 (Text.splitAll (separator delimiter) text)
  have texts : (Text.splitAll (separator delimiter) text).map Text.trim =
      ((placesFrom (separator delimiter) 0 (Text.splitAll (separator delimiter) text)).map
        trimmed).map (·.found) := by
    rw [List.map_map, ← congrArg (List.map Text.trim) pieces, List.map_map]
    rfl
  rw [places, ofText_eq, texts]
  exact (List.filter_map (p := (· != [])) (f := Located.found)).symm

/-- A piece stands between the pieces before and behind it, with a mark at either end of the rest. -/
theorem exists_of_mem_placesFrom {mark : Text} {pieces : List Text} {offset : Nat}
    {s : Located Text} (h : s ∈ placesFrom mark offset pieces) :
    s.found ∈ pieces ∧ ∃ before behind, Text.join mark pieces = before ++ s.found ++ behind ∧
      s.start = offset + before.length ∧ (before = [] ∨ mark <:+ before) ∧
      (behind = [] ∨ mark <+: behind) := by
  induction pieces generalizing offset with
  | nil => exact absurd h List.not_mem_nil
  | cons piece pieces ih =>
    rcases List.mem_cons.1 h with rfl | h
    · refine ⟨List.mem_cons_self, [], ?_⟩
      cases pieces with
      | nil => exact ⟨[], by simp [Text.join], rfl, .inl rfl, .inl rfl⟩
      | cons next pieces =>
        refine ⟨mark ++ Text.join mark (next :: pieces), ?_, rfl, .inl rfl,
          .inr (List.prefix_append _ _)⟩
        simp [Text.join, List.intercalate_cons_cons]
    · obtain ⟨mem, before, behind, joined, start, front, back⟩ := ih h
      refine ⟨List.mem_cons_of_mem piece mem, piece ++ mark ++ before, behind, ?_, ?_, ?_, back⟩
      · obtain ⟨next, others, rfl⟩ := List.exists_cons_of_ne_nil (List.ne_nil_of_mem mem)
        rw [Text.join, List.intercalate_cons_cons, ← Text.join, joined]
        simp
      · rw [start, List.length_append, List.length_append]
        omega
      · rcases front with rfl | front
        · exact .inr (by simp)
        · exact .inr (front.trans (List.suffix_append _ before))

theorem infix_innerLines (free : '\n' ∉ delimiter) (front back : Text) :
    [delimiter, delimiter] <:+:
      Text.innerLines (front ++ (separator delimiter ++ (delimiter ++ '\n' :: back))) := by
  have regrouped : front ++ (separator delimiter ++ (delimiter ++ '\n' :: back)) =
      front ++ '\n' :: (delimiter ++ '\n' :: (delimiter ++ '\n' :: back)) := by
    simp [separator]
  refine ⟨(Text.lines front).tail, (Text.lines back).dropLast, ?_⟩
  rw [regrouped, Text.innerLines, Text.tail_lines_append_feed, Text.lines_append_feed,
    Text.lines_append_feed, Text.lines_of_notMem free, ← List.append_assoc, ← List.append_assoc,
    List.dropLast_append_of_ne_nil (Text.lines_ne_nil back)]
  simp

/-- A piece between cuts holds a delimiter line at its border only, next to one that is cut at. -/
theorem adjacent_of_piece (free : '\n' ∉ delimiter) {before front back behind : Text}
    (whole : ¬ separator delimiter <:+: front ++ delimiter ++ back)
    (above : before = [] ∨ separator delimiter <:+ before)
    (below : behind = [] ∨ separator delimiter <+: behind)
    (feed : (before ++ front).getLast? = some '\n') (feed' : (back ++ behind).head? = some '\n') :
    [delimiter, delimiter] <:+:
        Text.innerLines (before ++ front ++ (delimiter ++ (back ++ behind))) ∧
      (front = [] ∨ back = []) := by
  obtain ⟨later, same⟩ := List.head?_eq_some_iff.1 feed'
  rcases List.eq_nil_or_concat front with rfl | ⟨front, c, rfl⟩
  · -- the piece begins with the line, behind a delimiter line that is cut at
    rw [List.append_nil] at feed ⊢
    have ne : before ≠ [] := by
      rintro rfl
      exact nomatch feed
    obtain ⟨first, rfl⟩ := above.resolve_left ne
    rw [same, List.append_assoc]
    exact ⟨infix_innerLines free first later, .inl rfl⟩
  · rw [List.concat_eq_append, ← List.append_assoc, List.getLast?_concat, Option.some.injEq] at feed
    subst feed
    rw [List.concat_eq_append] at whole ⊢
    cases back with
    | nil =>
      -- the piece ends with the line, before a delimiter line that is cut at
      have ne : behind ≠ [] := by
        rintro rfl
        exact nomatch feed'
      obtain ⟨last, rfl⟩ := below.resolve_left ne
      have adjacent := infix_innerLines free (before ++ front) last
      have regrouped : before ++ front ++ (separator delimiter ++ (delimiter ++ '\n' :: last)) =
          before ++ (front ++ ['\n']) ++ (delimiter ++ ([] ++ (separator delimiter ++ last))) := by
        simp [separator]
      exact ⟨regrouped ▸ adjacent, .inr rfl⟩
    | cons d back =>
      -- in the middle of a piece there is none
      rw [List.cons_append, List.cons.injEq] at same
      obtain ⟨rfl, -⟩ := same
      exact absurd ⟨front, back, by simp [separator]⟩ whole

/-- A section between the blanks that trimming takes and the cuts before and behind them. -/
structure Place (delimiter text : Text) (s : Located Text) (before lead trail behind : Text) :
    Prop where
  whole : text = before ++ (lead ++ s.found ++ trail) ++ behind
  start : s.start = (before ++ lead).length
  stop : s.stop = s.start + s.found.length
  trimmed : ∃ piece, s.found = Text.trim piece
  undivided : ¬ separator delimiter <:+: lead ++ s.found ++ trail
  above : before = [] ∨ separator delimiter <:+ before
  below : behind = [] ∨ separator delimiter <+: behind

theorem exists_place {s : Located Text} (h : s ∈ places delimiter text) :
    ∃ before lead trail behind, Place delimiter text s before lead trail behind := by
  obtain ⟨q, hq, rfl⟩ := List.mem_map.1 (List.mem_filter.1 h).1
  obtain ⟨mem, before, behind, joined, start, above, below⟩ := exists_of_mem_placesFrom hq
  obtain ⟨trail, -, cut⟩ := Text.exists_trim q.found
  refine ⟨before, q.found.takeWhile Text.isBlank, trail, behind, ?_, ?_, rfl, ⟨q.found, rfl⟩, ?_,
    above, below⟩
  · change text = before ++ (_ ++ Text.trim q.found ++ trail) ++ behind
    rw [← cut, ← joined, Text.join_splitAll]
  · rw [List.length_append, trimmed, start, Nat.zero_add]
  · change ¬ separator delimiter <:+: _ ++ Text.trim q.found ++ trail
    rw [← cut]
    exact (Text.of_mem_splitAll separator_ne_nil mem).2

theorem Place.slice {s : Located Text} {before lead trail behind : Text}
    (h : Place delimiter text s before lead trail behind) :
    Text.slice text s.start s.stop = s.found := by
  have cut : text = (before ++ lead) ++ (s.found ++ (trail ++ behind)) := by
    rw [h.whole]
    simp
  rw [Text.slice, h.stop, h.start, Nat.add_sub_cancel_left, cut, List.drop_left, List.take_left]

/-- A delimiter line that a section holds begins or ends the section, and another one follows it or
comes before it. -/
theorem Place.adjacent (free : '\n' ∉ delimiter) {s : Located Text}
    {before lead trail behind : Text} (h : Place delimiter text s before lead trail behind)
    (holds : HoldsDelimiter delimiter text s) :
    [delimiter, delimiter] <:+: Text.innerLines text ∧
      (delimiter <+: s.found ∨ delimiter <:+ s.found) := by
  obtain ⟨front, back, same, feed, feed'⟩ := holds
  have piece : lead ++ s.found ++ trail = (lead ++ front) ++ delimiter ++ (back ++ trail) := by
    rw [same]
    simp
  have whole : text = before ++ (lead ++ front) ++ (delimiter ++ ((back ++ trail) ++ behind)) := by
    rw [h.whole, piece]
    simp
  rw [h.start, ← List.length_append, List.append_assoc, whole, List.take_left] at feed
  rw [h.start, ← List.length_append, ← List.length_append, List.append_assoc before, whole,
    ← List.append_assoc _ delimiter, List.drop_left] at feed'
  obtain ⟨adjacent, border⟩ :=
    adjacent_of_piece free (piece ▸ h.undivided) h.above h.below feed feed'
  refine ⟨whole ▸ adjacent, ?_⟩
  rw [same]
  rcases border with none | none
  · rw [(List.append_eq_nil_iff.1 none).2]
    exact .inl (List.prefix_append delimiter back)
  · rw [(List.append_eq_nil_iff.1 none).1, List.append_nil]
    exact .inr (List.suffix_append front delimiter)

end Places

/-- Sections are the runs of lines between delimiter lines exactly if no two delimiter lines follow
each other or delimiters are blank. -/
theorem ofText_eq_ofRuns_iff (free : '\n' ∉ delimiter) (text : Text) :
    ofText delimiter text = ofRuns (runs delimiter (Text.lines text)) ↔
      Text.isAllBlank delimiter = true ∨ ¬ [delimiter, delimiter] <:+: Text.innerLines text := by
  obtain ⟨first, later, ls, whole, same⟩ := Text.exists_lines text
  rw [ofText_eq_ofRuns_cuts free, Text.innerLines, same, List.tail_cons, cuts, runs]
  constructor
  · intro alike
    by_contra apart
    rw [not_or, not_not] at apart
    have weights := congrArg (fun sections => Text.weight sections.flatten) alike
    simp only [weight_ofRuns] at weights
    rw [weight_modifyHead_cons first (cutsBelow_ne_nil delimiter _),
      weight_modifyHead_cons first (runsBelow_ne_nil delimiter _)] at weights
    have more := (weight_runsBelow_le delimiter later).2 apart.2
    exact apart.1 (Text.weight_eq_zero_iff.1 (by omega))
  · rintro (blank | apart)
    · exact ofRuns_cutsBelow_of_blank blank [first] later
    · rw [cutsBelow_eq_runsBelow apart]

/-- No section holds a line of the text that is the delimiter, and the sections are the runs of lines
between such lines, trimmed, in order, without those that are blank. -/
structure CutsAtAll (delimiter text : Text) : Prop where
  holdsNone : ∀ s ∈ places delimiter text, ¬ HoldsDelimiter delimiter text s
  sections : ofText delimiter text = ofRuns (runs delimiter (Text.lines text))

/-- A text is cut at all delimiter lines that line feeds stand around exactly if no two of them
follow each other or delimiters are blank. -/
theorem cutsAtAll_iff (ne : delimiter ≠ []) (free : '\n' ∉ delimiter) (text : Text) :
    (places delimiter text).map (·.found) = ofText delimiter text ∧
      (∀ s ∈ places delimiter text, Text.slice text s.start s.stop = s.found) ∧
      (CutsAtAll delimiter text ↔
        Text.isAllBlank delimiter = true ∨
          ¬ [delimiter, delimiter] <:+: Text.innerLines text) := by
  refine ⟨map_found_places delimiter text, fun s hs => ?_, ?_⟩
  · obtain ⟨before, lead, trail, behind, place⟩ := exists_place hs
    exact place.slice
  · rw [← ofText_eq_ofRuns_iff free text]
    refine ⟨CutsAtAll.sections, fun sections => ⟨fun s hs holds => ?_, sections⟩⟩
    obtain ⟨before, lead, trail, behind, place⟩ := exists_place hs
    obtain ⟨adjacent, border⟩ := place.adjacent free holds
    rcases (ofText_eq_ofRuns_iff free text).1 sections with blank | apart
    · -- a section does not begin or end with blanks
      have blanks := List.all_eq_true.1 blank
      obtain ⟨piece, same⟩ := place.trimmed
      rw [same] at border
      rcases border with begins | ends
      · exact Text.not_prefix_trimStart ne blanks _ (begins.trans (Text.trimEnd_isPrefix _))
      · exact Text.not_suffix_trimEnd ne blanks _ ends
    · exact apart adjacent

/-- Delimiter lines and blank lines in turn, and at either end a line that is none between others. -/
theorem cutsAtAll_of_apart :
    let delimiter : Text := "---"
    let text : Text := "---\na\n---\n \n---\nb\n---"
    delimiter ≠ [] ∧ '\n' ∉ delimiter ∧ CutsAtAll delimiter text ∧
      ofText delimiter text = ["---\na".toList, "b\n---".toList] := by
  intro delimiter text
  have ne : delimiter ≠ [] := by decide
  have free : '\n' ∉ delimiter := by decide
  have cuts : CutsAtAll delimiter text := (cutsAtAll_iff ne free text).2.2.2 (.inr (by decide +kernel))
  exact ⟨ne, free, cuts, cuts.sections.trans (by decide +kernel)⟩

/-- Of two delimiter lines that follow each other the lower one stays in the section below. -/
theorem not_cutsAtAll :
    let text : Text := "a\n---\n---\nb"
    ofText "---" text = ["a".toList, "---\nb".toList] ∧
      ofRuns (runs "---" (Text.lines text)) = ["a".toList, "b".toList] ∧
      ¬ CutsAtAll "---" text := by
  intro text
  have sections : ofText "---" text = ["a".toList, "---\nb".toList] := by
    rw [ofText_eq_ofRuns_cuts (by decide)]
    decide +kernel
  refine ⟨sections, by decide +kernel, fun cuts => ?_⟩
  exact absurd (sections.symm.trans cuts.sections) (by decide +kernel)

end Section
end PageDirectives
