import Mathlib.Data.List.Basic
import Mathlib.Data.List.Induction
import PageDirectives.Cleanup.Marks
import PageDirectives.Proofs.Directive.LineScan
import PageDirectives.Proofs.Text.Cuts
import PageDirectives.Proofs.Text.Rows
/-!
Callouts of comments, line by line. A callout is a header with its line feed and the quoted lines
directly behind it, and taking it away takes whole lines and nothing else. A header that ends the
text without a line feed is no callout: it stays, unless it belongs to a callout above it.
-/
namespace PageDirectives

namespace Text

theorem startsWith_append_feed {mark : Text} (free : '\n' ∉ mark) (line rest : Text) :
    startsWith (line ++ '\n' :: rest) mark = startsWith line mark := by
  rw [startsWith, startsWith, ← afterLine_lines, after?_line free, Option.isSome_map]

end Text

namespace Cleanup

/-- Whether a line is the header of a callout of comments. -/
def headsCallout (row : Text) : Bool :=
  Text.startsWith row "> [!comment]" || Text.startsWith row "> [!comments]"

/-- Whether a line is quoted. -/
def isQuoted (row : Text) : Bool := Text.startsWith row ['>']

/-- Whether a line is the header of a callout and has its line feed. -/
def headsEnded (row : Text) : Bool := headsCallout row && row.getLast? == some '\n'

/-- Lines without headers of callouts and without the quoted lines that directly follow them. The
flag tells whether the lines follow a callout. -/
def withoutCallouts (heads : Text → Bool) (inside : Bool) : List Text → List Text
  | [] => []
  | row :: rows =>
    if heads row || inside && isQuoted row then withoutCallouts heads true rows
    else row :: withoutCallouts heads false rows

variable {line rest row : Text} {rows : List Text}

theorem headsCallout_eq (text : Text) :
    headsCallout text = ((Text.after? "> [!comment" text).bind fun rest =>
      Text.after? [']'] ((Text.after? ['s'] rest).getD rest)).isSome := by
  have one : ("> [!comment]" : Text) = "> [!comment" ++ [']'] := rfl
  have many : ("> [!comments]" : Text) = "> [!comment" ++ ['s', ']'] := rfl
  rw [headsCallout, Text.startsWith, Text.startsWith, one, many, Text.after?_append_mark,
    Text.after?_append_mark]
  cases Text.after? "> [!comment" text with
  | none => rfl
  | some rest =>
    cases rest with
    | nil => rfl
    | cons c rest =>
      by_cases h : 's' = c
      · subst h
        simp [Text.after?]
      · simp [Text.after?, h]

theorem isQuoted_of_headsCallout (heads : headsCallout row = true) : isQuoted row = true := by
  cases row with
  | nil => exact heads
  | cons c row =>
    by_cases h : '>' = c
    · subst h
      rfl
    · simp [headsCallout, Text.startsWith, Text.after?, h] at heads

theorem headsCallout_append_feed (line rest : Text) :
    headsCallout (line ++ '\n' :: rest) = headsCallout line := by
  rw [headsCallout, headsCallout, Text.startsWith_append_feed (by decide),
    Text.startsWith_append_feed (by decide)]

theorem commentCallout_eq (text : Text) :
    commentCallout true text = if headsCallout text then
      match text.drop (Text.firstLine text).length with
      | [] => none
      | _ :: rest => some ((), (Text.firstLine text).length + 1 + quotedSize true rest)
    else none := by
  have checked {α : Type} (read : Option Text) (then' : Option α) :
      (read.bind fun _ => then') = if read.isSome then then' else none := by
    cases read <;> rfl
  rw [headsCallout_eq, commentCallout]
  cases Text.after? "> [!comment" text with
  | none => rfl
  | some rest => exact checked _ _

theorem commentCallout_of_notMem (free : '\n' ∉ line) : commentCallout true line = none := by
  have first := Text.firstLine_append free []
  rw [Text.afterLine_nil, List.append_nil] at first
  rw [commentCallout_eq, first, List.drop_length]
  split <;> rfl

theorem commentCallout_append_feed (free : '\n' ∉ line) (rest : Text) :
    commentCallout true (line ++ '\n' :: rest) =
      if headsCallout line then some ((), line.length + 1 + quotedSize true rest) else none := by
  have first := Text.firstLine_append free (Text.lines rest)
  rw [Text.afterLine_lines] at first
  rw [commentCallout_eq, headsCallout_append_feed, first, List.drop_left]

theorem isQuoted_cons (c : Char) (row : Text) : isQuoted (c :: row) = (c == '>') := by
  by_cases h : '>' = c
  · subst h
    rfl
  · simp [isQuoted, Text.startsWith, Text.after?, h, Ne.symm h]

theorem isQuoted_append_feed (line rest : Text) :
    isQuoted (line ++ '\n' :: rest) = isQuoted line :=
  Text.startsWith_append_feed (by decide) line rest

theorem quotedSize_line (free : '\n' ∉ line) (rest : Text) :
    quotedSize false (line ++ rest) = line.length + quotedSize false rest := by
  induction line with
  | nil => simp
  | cons c line ih =>
    have hc := Text.beq_feed_of_notMem free
    rw [List.cons_append, quotedSize, Bool.false_and, if_neg Bool.false_ne_true, hc,
      ih fun m => free (List.mem_cons_of_mem c m), List.length_cons]
    omega

theorem quotedSize_true_line (ne : line ≠ []) (free : '\n' ∉ line) (rest : Text) :
    quotedSize true (line ++ rest) =
      if isQuoted line then line.length + quotedSize false rest else 0 := by
  obtain ⟨c, line, rfl⟩ := List.exists_cons_of_ne_nil ne
  have behind := quotedSize_line (fun m => free (List.mem_cons_of_mem c m)) rest
  rw [isQuoted_cons, List.cons_append, quotedSize, Text.beq_feed_of_notMem free, behind]
  by_cases h : c = '>'
  · simp [h]
    omega
  · simp [h]

theorem quotedSize_append_feed (free : '\n' ∉ line) (rest : Text) :
    quotedSize true (line ++ '\n' :: rest) =
      if isQuoted line then line.length + 1 + quotedSize true rest else 0 := by
  cases line with
  | nil => rfl
  | cons c line =>
    have feed : quotedSize false ('\n' :: rest) = 1 + quotedSize true rest := by
      simp [quotedSize]
    rw [quotedSize_true_line (List.cons_ne_nil c line) free, feed, Nat.add_assoc]

/-- Behind the quoted lines at its front, a text has the rows behind the quoted ones. -/
theorem rows_drop_quotedSize (text : Text) :
    Text.rows (text.drop (quotedSize true text)) = (Text.rows text).dropWhile isQuoted := by
  induction text using Text.rowInduction with
  | nil => rfl
  | last line ne free =>
    have size := quotedSize_true_line ne free []
    rw [List.append_nil] at size
    rw [size, Text.rows_of_notMem ne free, List.dropWhile_cons]
    cases isQuoted line with
    | true => simp [quotedSize, Text.rows]
    | false => simp [Text.rows_of_notMem ne free]
  | row line rest free ih =>
    rw [quotedSize_append_feed free, Text.rows_append_feed free, List.dropWhile_cons,
      isQuoted_append_feed]
    cases isQuoted line with
    | true =>
      rw [if_pos rfl, if_pos rfl, Text.drop_row]
      exact ih rest (Nat.le_refl _)
    | false => rw [if_neg Bool.false_ne_true, if_neg Bool.false_ne_true, List.drop_zero,
        Text.rows_append_feed free]

/-- The quoted lines at the front of a text reach to its end, or to a line feed. -/
theorem lineStartAfter_take_quotedSize (text : Text) {front : Text}
    (ended : Search.lineStartAfter front = true) :
    text.drop (quotedSize true text) = [] ∨
      Search.lineStartAfter (front ++ text.take (quotedSize true text)) = true := by
  induction text using Text.rowInduction generalizing front with
  | nil => exact .inl rfl
  | last line ne free =>
    have size := quotedSize_true_line ne free []
    rw [List.append_nil] at size
    rw [size]
    cases isQuoted line with
    | true => exact .inl (by simp [quotedSize])
    | false => exact .inr (by simpa using ended)
  | row line rest free ih =>
    rw [quotedSize_append_feed free]
    cases isQuoted line with
    | true =>
      rw [if_pos rfl, Text.take_row, Text.drop_row, ← List.append_assoc]
      exact ih rest (Nat.le_refl _) (by simp [Search.lineStartAfter])
    | false => exact .inr (by simpa using ended)

theorem withoutCallouts_inside {heads : Text → Bool}
    (quoted : ∀ row, heads row = true → isQuoted row = true) (rows : List Text) :
    withoutCallouts heads true rows = withoutCallouts heads false (rows.dropWhile isQuoted) := by
  induction rows with
  | nil => rfl
  | cons row rows ih =>
    rw [withoutCallouts, List.dropWhile_cons]
    cases h : isQuoted row with
    | true => simpa using ih
    | false =>
      have other : heads row = false := Bool.eq_false_iff.2 fun head => by
        simp [quoted row head] at h
      simp [other, withoutCallouts]

theorem isQuoted_of_headsEnded (row : Text) (heads : headsEnded row = true) :
    isQuoted row = true :=
  isQuoted_of_headsCallout (Bool.and_eq_true_iff.1 heads).1

theorem headsEnded_append_feed (line : Text) : headsEnded (line ++ ['\n']) = headsCallout line := by
  rw [headsEnded, headsCallout_append_feed, List.getLast?_concat]
  simp

theorem headsEnded_of_notMem (free : '\n' ∉ line) : headsEnded line = false := by
  have last : line.getLast? ≠ some '\n' := fun last => free (List.mem_of_getLast? last)
  simp [headsEnded, last]

theorem commentCallout_insideLine (text : Text) : commentCallout false text = none := rfl

/-- Taking callouts away leaves the lines that are none of headers with their line feeds and of
quoted lines that directly follow them. -/
theorem rows_stripCommentCallouts (text : Text) :
    Text.rows (stripCommentCallouts text) = withoutCallouts headsEnded false (Text.rows text) := by
  rw [stripCommentCallouts, Search.exchange]
  induction text using Text.rowInduction with
  | nil => simp [Search.exchangeFrom, Text.rows, withoutCallouts]
  | last line ne free =>
    have unread : commentCallout true (line ++ []) = none := by
      rw [List.append_nil]
      exact commentCallout_of_notMem free
    have kept : Search.exchangeFrom commentCallout (fun _ => []) true (line ++ []) = _ :=
      Search.exchangeFrom_line commentCallout_insideLine free unread
    rw [List.append_nil] at kept
    rw [kept, Search.exchangeFrom, List.append_nil, Text.rows_of_notMem ne free]
    simp [withoutCallouts, headsEnded_of_notMem free]
  | row line rest free ih =>
    have read := commentCallout_append_feed free rest
    have rows := Text.rows_append_feed free rest
    have heads := headsEnded_append_feed line
    rw [rows, withoutCallouts, heads]
    cases head : headsCallout line with
    | true =>
      rw [head, if_pos rfl] at read
      rw [Search.exchangeFrom_of_some (by simp) (by omega) read, Text.take_row, Text.drop_row,
        List.nil_append, Bool.true_or, if_pos rfl, withoutCallouts_inside isQuoted_of_headsEnded,
        ← rows_drop_quotedSize, ← ih _ (by simp)]
      -- behind the callout a line begins, or nothing is left
      have ended : Search.lineStartAfter (line ++ ['\n']) = true := by simp [Search.lineStartAfter]
      rcases lineStartAfter_take_quotedSize rest ended with none | starts
      · rw [none, Search.exchangeFrom, Search.exchangeFrom]
      · rw [starts]
    | false =>
      rw [head, if_neg Bool.false_ne_true] at read
      have feed : Search.exchangeFrom commentCallout (fun _ => []) (line == []) ('\n' :: rest) =
          '\n' :: Search.exchangeFrom commentCallout (fun _ => []) true rest := by
        have unread : commentCallout (line == []) ('\n' :: rest) = none := by
          cases line <;> rfl
        rw [Search.exchangeFrom, unread]
        rfl
      rw [Search.exchangeFrom_line commentCallout_insideLine free read, feed,
        Text.rows_append_feed free, ih rest (Nat.le_refl _)]
      simp

section LastLine

variable {heads heads' : Text → Bool}

theorem heads_of_mem_withoutCallouts {inside : Bool}
    (h : row ∈ withoutCallouts heads inside rows) : heads row = false := by
  induction rows generalizing inside with
  | nil => exact absurd h List.not_mem_nil
  | cons first rows ih =>
    rw [withoutCallouts] at h
    split at h
    · exact ih h
    · next kept =>
      rcases List.mem_cons.1 h with rfl | h
      · simp_all
      · exact ih h

/-- Whether what follows some lines follows a callout. -/
def insideAfter (heads : Text → Bool) (rows : List Text) : Bool :=
  rows.foldl (fun inside row => heads row || inside && isQuoted row) false

theorem withoutCallouts_concat (heads : Text → Bool) (rows : List Text) (last : Text) :
    withoutCallouts heads false (rows ++ [last]) = withoutCallouts heads false rows ++
      if heads last || insideAfter heads rows && isQuoted last then [] else [last] := by
  rw [insideAfter]
  generalize false = inside
  induction rows generalizing inside with
  | nil => cases h : heads last || inside && isQuoted last <;> simp [withoutCallouts, h]
  | cons row rows ih =>
    rw [List.cons_append, withoutCallouts, withoutCallouts, List.foldl_cons]
    cases h : heads row || inside && isQuoted row with
    | true => simpa using ih true
    | false => simpa using ih false

theorem withoutCallouts_congr (same : ∀ row ∈ rows, heads row = heads' row) (inside : Bool) :
    withoutCallouts heads inside rows = withoutCallouts heads' inside rows := by
  induction rows generalizing inside with
  | nil => rfl
  | cons row rows ih =>
    obtain ⟨first, others⟩ := List.forall_mem_cons.1 same
    rw [withoutCallouts, withoutCallouts, first, ih others, ih others]

theorem insideAfter_congr (same : ∀ row ∈ rows, heads row = heads' row) :
    insideAfter heads rows = insideAfter heads' rows :=
  List.foldl_ext _ _ _ fun inside row h => by rw [same row h]

/-- The last of some lines belong to a callout: its header and only quoted lines behind it. -/
def EndsInCallout (rows : List Text) : Prop :=
  ∃ above header quotes, rows = above ++ header :: quotes ∧ headsCallout header = true ∧
    ∀ quote ∈ quotes, isQuoted quote = true

theorem insideAfter_iff (rows : List Text) :
    insideAfter headsCallout rows = true ↔ EndsInCallout rows := by
  induction rows using List.reverseRecOn with
  | nil => simp [insideAfter, EndsInCallout]
  | append_singleton rows last ih =>
    rw [insideAfter, List.foldl_concat, ← insideAfter, Bool.or_eq_true, Bool.and_eq_true, ih]
    constructor
    · rintro (head | ⟨⟨above, header, quotes, rfl, head, quoted⟩, lastQuoted⟩)
      · exact ⟨rows, last, [], rfl, head, by simp⟩
      · refine ⟨above, header, quotes ++ [last], by simp, head, ?_⟩
        exact List.forall_mem_append.2 ⟨quoted, List.forall_mem_singleton.2 lastQuoted⟩
    · rintro ⟨above, header, quotes, cut, head, quoted⟩
      rcases List.eq_nil_or_concat quotes with rfl | ⟨quotes, quote, rfl⟩
      · obtain ⟨-, same⟩ := List.append_inj' cut rfl
        exact .inl (by rwa [List.singleton_inj.1 same])
      · rw [List.concat_eq_append, ← List.cons_append, ← List.append_assoc] at cut
        rw [List.concat_eq_append, List.forall_mem_append] at quoted
        obtain ⟨same, last⟩ := List.append_inj' cut rfl
        refine .inr ⟨⟨above, header, quotes, same, head, quoted.1⟩, ?_⟩
        rw [List.singleton_inj.1 last]
        exact quoted.2 quote (List.mem_singleton_self _)

/-- A text ends in a header of a callout without a line feed, and the header belongs to no callout
above it. -/
def EndsInOpenHeader (text : Text) : Prop :=
  ∃ above header, Text.rows text = above ++ [header] ∧ headsCallout header = true ∧
    header.getLast? ≠ some '\n' ∧ ¬ EndsInCallout above

/-- Above the last line all headers have their line feeds. -/
theorem headsEnded_of_mem_dropLast {text : Text} (h : row ∈ (Text.rows text).dropLast) :
    headsEnded row = headsCallout row := by
  rw [headsEnded, Text.getLast?_of_mem_dropLast_rows h]
  simp

/-- The two ways of reading headers differ on the last line at most. -/
theorem withoutCallouts_headsEnded {text last : Text} {above : List Text}
    (cut : Text.rows text = above ++ [last]) :
    withoutCallouts headsEnded false (Text.rows text) =
      withoutCallouts headsCallout false above ++
        if headsEnded last || insideAfter headsCallout above && isQuoted last then [] else [last] := by
  have same : ∀ row ∈ above, headsEnded row = headsCallout row := fun row h =>
    headsEnded_of_mem_dropLast (by rwa [cut, List.dropLast_concat])
  rw [cut, withoutCallouts_concat, withoutCallouts_congr same, insideAfter_congr same]

/-- A header that ends a text without a line feed and belongs to no callout stays. -/
theorem EndsInOpenHeader.exists_left {text : Text} (ends : EndsInOpenHeader text) :
    ∃ row ∈ withoutCallouts headsEnded false (Text.rows text), headsCallout row = true := by
  obtain ⟨above, header, cut, head, unended, outside⟩ := ends
  rw [← insideAfter_iff, Bool.not_eq_true] at outside
  refine ⟨header, ?_, head⟩
  rw [withoutCallouts_headsEnded cut]
  simp [headsEnded, unended, outside]

theorem withoutCallouts_of_not_endsInOpenHeader {text : Text} (closed : ¬ EndsInOpenHeader text) :
    withoutCallouts headsEnded false (Text.rows text) =
      withoutCallouts headsCallout false (Text.rows text) := by
  rcases List.eq_nil_or_concat (Text.rows text) with none | ⟨above, last, cut⟩
  · rw [none]
    rfl
  rw [List.concat_eq_append] at cut
  rw [withoutCallouts_headsEnded cut, cut, withoutCallouts_concat]
  congr 1
  cases head : headsCallout last with
  | false => simp [headsEnded, head]
  | true =>
    by_cases ended : last.getLast? = some '\n'
    · simp [headsEnded, head, ended]
    · have inside : insideAfter headsCallout above = true := by
        by_contra outside
        rw [insideAfter_iff] at outside
        exact closed ⟨above, last, cut, head, ended, outside⟩
      simp [inside, isQuoted_of_headsCallout head]

/-- What is left of a text has no header of a callout, and its lines are those of the text without
headers and without the quoted lines that directly follow them. -/
structure ClearsCallouts (text : Text) : Prop where
  noneLeft : ∀ row ∈ Text.rows (stripCommentCallouts text), headsCallout row = false
  others : Text.rows (stripCommentCallouts text) =
    withoutCallouts headsCallout false (Text.rows text)

/-- The lines of callouts are taken away, and no others. All callouts are, exactly if the text does
not end in a header that lacks a line feed and a callout above. -/
theorem clearsCallouts_iff (text : Text) :
    Text.rows (stripCommentCallouts text) =
        withoutCallouts headsEnded false (Text.rows text) ∧
      (ClearsCallouts text ↔ ¬ EndsInOpenHeader text) := by
  have left := rows_stripCommentCallouts text
  refine ⟨left, fun clears ends => ?_, fun closed => ?_⟩
  · obtain ⟨row, kept, head⟩ := ends.exists_left
    rw [← left] at kept
    exact Bool.noConfusion (head.symm.trans (clears.noneLeft row kept))
  · have others : Text.rows (stripCommentCallouts text) =
        withoutCallouts headsCallout false (Text.rows text) := by
      rw [left, withoutCallouts_of_not_endsInOpenHeader closed]
    refine ⟨fun row h => ?_, others⟩
    rw [others] at h
    exact heads_of_mem_withoutCallouts h

/-- A header that ends a text without a line feed stays, with no callout above it. -/
theorem not_clearsCallouts :
    let text : Text := "> [!comment] draft"
    stripCommentCallouts text = text ∧ ¬ ClearsCallouts text := by
  intro text
  have rows : Text.rows (stripCommentCallouts text) = Text.rows text := by
    rw [rows_stripCommentCallouts]
    decide +kernel
  refine ⟨?_, fun clears => ?_⟩
  · rw [← Text.flatten_rows (stripCommentCallouts text), rows, Text.flatten_rows]
  · have head := clears.noneLeft text (by rw [rows]; decide +kernel)
    exact Bool.noConfusion head

end LastLine

end Cleanup
end PageDirectives
