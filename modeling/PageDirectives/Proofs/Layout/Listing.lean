import PageDirectives.Layout.Listing
import PageDirectives.Proofs.Directive.Marked
import PageDirectives.Proofs.Text.Trimming
/-!
Listings make no directives. Whatever markup a highlighter makes of a source, the last step goes over
its lines and spells out the mark of each line that starts with one, so no line of a listing is
marked.
-/
namespace PageDirectives.Listing

open Directive

/-- A line whose mark, if it starts with one, is spelled out. -/
def disarmedLine (line : Text) : Text :=
  match Text.after? mark line with
  | some rest => "&#58;:" ++ rest
  | none => line

/-- The rest of a text with the marks at line starts spelled out. -/
def sweep (lineStart : Bool) (text : Text) : Text :=
  Search.exchangeFrom markAtLineStart (fun _ => "&#58;:") lineStart text

theorem sweep_insideLine {line : Text} (free : '\n' ∉ line) (rest : Text) :
    sweep false (line ++ rest) = line ++ sweep false rest :=
  Search.exchangeFrom_insideLine (fun _ => rfl) free rest

theorem sweep_feed (lineStart : Bool) (text : Text) :
    sweep lineStart ('\n' :: text) = '\n' :: sweep true text := by
  have feed : markAtLineStart lineStart ('\n' :: text) = none := by cases lineStart <;> rfl
  rw [sweep, Search.exchangeFrom, feed]
  rfl

theorem sweep_mark (rest : Text) : sweep true (mark ++ rest) = "&#58;:" ++ sweep false rest := by
  have read : markAtLineStart true (mark ++ rest) = some ((), 2) := by
    rw [markAtLineStart, Text.startsWith, Text.after?_append]
    rfl
  change sweep true (':' :: ':' :: rest) = _
  rw [sweep, Search.exchangeFrom]
  change markAtLineStart true (':' :: ':' :: rest) = some ((), 2) at read
  rw [read]
  rfl

theorem sweep_unmarked {c : Char} {line : Text} (unmarked : Text.after? mark (c :: line) = none)
    (free : '\n' ∉ c :: line) (later : List Text) :
    sweep true (c :: line ++ Text.afterLine later) =
      c :: line ++ sweep false (Text.afterLine later) := by
  have unread : markAtLineStart true (c :: line ++ Text.afterLine later) = none := by
    rw [markAtLineStart, Text.startsWith, Text.after?_line (by decide), unmarked]
    rfl
  rw [List.cons_append] at unread ⊢
  rw [sweep, Search.exchangeFrom, unread]
  simp only [Text.beq_feed_of_notMem free]
  exact congrArg _ (sweep_insideLine (fun m => free (List.mem_cons_of_mem c m)) _)

theorem sweep_ofLines {lines : List Text} (ls : Text.AreLines lines) :
    sweep true (Text.ofLines lines) = Text.ofLines (lines.map disarmedLine) := by
  induction lines with
  | nil => rw [Text.ofLines_nil, sweep, Search.exchangeFrom]; rfl
  | cons line later ih =>
    obtain ⟨free, behind⟩ := Text.areLines_cons.1 ls
    have others (lineStart : Bool) : sweep lineStart (Text.afterLine later) =
        Text.afterLine (later.map disarmedLine) := by
      cases later with
      | nil => rw [Text.afterLine_nil, sweep, Search.exchangeFrom]; rfl
      | cons next later =>
        rw [Text.afterLine_cons, sweep_feed, ih behind, List.map_cons, Text.afterLine_cons]
    rw [List.map_cons, Text.ofLines_cons, Text.ofLines_cons, disarmedLine]
    cases marked : Text.after? mark line with
    | some rest =>
      obtain rfl := Text.after?_eq_some marked
      have restFree : '\n' ∉ rest := fun m => free (List.mem_append_right mark m)
      rw [List.append_assoc, sweep_mark, sweep_insideLine restFree, others, List.append_assoc]
    | none =>
      cases line with
      | nil => exact others true
      | cons c line => rw [sweep_unmarked marked free, others]

theorem lines_disarm (text : Text) :
    Text.lines (disarm text) = (Text.lines text).map disarmedLine := by
  have ls := Text.areLines_lines text
  have swept : disarm text = Text.ofLines ((Text.lines text).map disarmedLine) := by
    rw [← sweep_ofLines ls, Text.ofLines_lines]
    rfl
  have disarmed : Text.AreLines ((Text.lines text).map disarmedLine) := by
    refine List.forall_mem_map.2 fun line hl => ?_
    have free := ls line hl
    rw [disarmedLine]
    cases marked : Text.after? mark line with
    | none => exact free
    | some rest =>
      rw [Text.after?_eq_some marked] at free
      simpa using fun m => free (List.mem_append_right mark m)
  rw [swept, Text.lines_ofLines disarmed (by simpa using Text.lines_ne_nil text)]

theorem isMarked_disarmedLine (line : Text) : isMarked (disarmedLine line) = false := by
  rw [disarmedLine]
  cases marked : Text.after? mark line with
  | none => simp [isMarked, Text.startsWith, marked]
  | some rest => rfl

theorem quiet_disarm (text : Text) : Quiet (disarm text) := by
  rw [Quiet, LineReader.Lacks, lines_disarm]
  exact List.forall_mem_map.2 fun line _ => isMarked_disarmedLine line

theorem trim_disarm_ne_nil {text : Text} (filled : Text.trim text ≠ []) :
    Text.trim (disarm text) ≠ [] := by
  rw [ne_eq, Text.trim_eq_nil_iff] at filled
  push Not at filled
  obtain ⟨c, hc, visible⟩ := filled
  have feed : c ≠ '\n' := by
    rintro rfl
    exact visible rfl
  rw [← Text.ofLines_lines text, Text.mem_ofLines feed] at hc
  obtain ⟨line, hl, hc⟩ := hc
  -- a mark that is spelled out begins with a character that is not blank either
  obtain ⟨d, hd, visible⟩ : ∃ d ∈ disarmedLine line, Text.isBlank d = false := by
    rw [disarmedLine]
    cases Text.after? mark line with
    | none => exact ⟨c, hc, by simpa using visible⟩
    | some rest => exact ⟨'&', List.mem_append_left _ (.head _), by decide⟩
  have feed : d ≠ '\n' := by
    rintro rfl
    exact Bool.noConfusion visible
  refine Text.trim_ne_nil (c := d) ?_ visible
  rw [← Text.ofLines_lines (disarm text), Text.mem_ofLines feed, lines_disarm]
  exact ⟨_, List.mem_map_of_mem hl, hd⟩

theorem highlight_of_markupNames {highlighter : Highlighter} {language : Text}
    (named : markupNames.contains (Text.lower language) = true) (source : Text) :
    highlighter.highlight language source = highlighter.directives (Lexer.tokens source) :=
  if_pos named

/-- A listing is the markup of its source, without marks at line starts. -/
theorem run_handler_eq_ok_iff {highlighter : Highlighter} {o : Occurrence} {v : Value} :
    (handler highlighter).run o = .ok v ↔
      ∃ shown, highlighter.highlight (language o.args) o.content = .ok shown ∧
        v = .text (disarm shown) := by
  change ((highlighter.highlight (language o.args) o.content).map disarm).map Value.text = .ok v ↔ _
  cases highlighter.highlight (language o.args) o.content <;> simp [Except.map, eq_comm]

end PageDirectives.Listing
