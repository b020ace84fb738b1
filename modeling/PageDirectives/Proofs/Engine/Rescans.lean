import PageDirectives.Proofs.Directive.Opening
import PageDirectives.Proofs.Engine.Pass
/-!
Where the directives that one handler is called for come from. The lines of a text are followed with
their sources through the passes of a registration, so that a line of an answer can be told from a
line of the text. All forms of one pass are found before any is replaced, so a single pass calls for
lines of the text only. A registration in both forms makes two passes, and the second reads what the
first has answered.
-/
namespace PageDirectives

open Directive

/-- Where a line comes from: the text that a run is given, or an answer on the way. -/
inductive LineSource
  | given
  | answered
  deriving Repr, DecidableEq

abbrev SourcedLine := Text × LineSource

namespace SourcedLine

def texts (lines : List SourcedLine) : List Text := lines.map (·.1)

def ofText (source : LineSource) (text : Text) : List SourcedLine :=
  (Text.lines text).map (·, source)

@[simp] theorem texts_nil : texts [] = [] := rfl

@[simp] theorem texts_cons (line : SourcedLine) (lines : List SourcedLine) :
    texts (line :: lines) = line.1 :: texts lines := rfl

@[simp] theorem texts_append (lines later : List SourcedLine) :
    texts (lines ++ later) = texts lines ++ texts later := List.map_append

@[simp] theorem texts_drop (n : Nat) (lines : List SourcedLine) :
    texts (lines.drop n) = (texts lines).drop n := List.map_drop

@[simp] theorem texts_take (n : Nat) (lines : List SourcedLine) :
    texts (lines.take n) = (texts lines).take n := List.map_take

@[simp] theorem texts_ofText (source : LineSource) (text : Text) :
    texts (ofText source text) = Text.lines text := by
  rw [texts, ofText, List.map_map]
  exact List.map_id _

end SourcedLine

namespace LineReader

open SourcedLine (texts ofText texts_cons texts_append texts_drop)

variable {α : Type}

/-- The forms in lines with sources, each with the line at which it is read. -/
def foundWith (R : LineReader α) : List SourcedLine → List (α × SourcedLine)
  | [] => []
  | line :: later =>
    match R line.1 (texts later) with
    | none => foundWith R later
    | some (found, more) => (found, line) :: foundWith R (later.drop more)
termination_by lines => lines.length
decreasing_by all_goals simp; try omega

/-- Lines with every form exchanged that has an image. The others stay as they are. -/
def exchangeWith (R : LineReader α) (image : α → Option Text) :
    List SourcedLine → List SourcedLine
  | [] => []
  | line :: later =>
    match R line.1 (texts later) with
    | none => line :: exchangeWith R image later
    | some (found, more) =>
      (match image found with
        | some text => ofText .answered text
        | none => line :: later.take more) ++ exchangeWith R image (later.drop more)
termination_by lines => lines.length
decreasing_by all_goals simp; try omega

variable {R : LineReader α} {image : α → Option Text} {lines : List SourcedLine}

theorem foundWith_of_none {line : SourcedLine} (unread : R line.1 (texts lines) = none) :
    R.foundWith (line :: lines) = R.foundWith lines := by
  rw [foundWith, unread]

theorem foundWith_of_some {line : SourcedLine} {found : α} {more : Nat}
    (read : R line.1 (texts lines) = some (found, more)) :
    R.foundWith (line :: lines) = (found, line) :: R.foundWith (lines.drop more) := by
  rw [foundWith, read]

theorem map_foundWith (R : LineReader α) (lines : List SourcedLine) :
    (R.foundWith lines).map (·.1) = R.found (texts lines) := by
  fun_induction R.foundWith lines with
  | case1 => exact found_nil.symm
  | case2 line later unread ih => rw [ih, texts_cons, found_of_none unread]
  | case3 line later found more read ih =>
    rw [List.map_cons, ih, texts_cons, found_of_some read, texts_drop]

/-- Sources aside, the exchange is that of a text whose forms stay as they are without an image. -/
theorem texts_exchangeWith {raw : α → Text}
    (raws : ∀ line later found more, R line later = some (found, more) →
      raw found = Text.ofLines (line :: later.take more))
    (areLines : Text.AreLines (texts lines)) :
    texts (R.exchangeWith image lines) =
      R.exchange (fun found => (image found).getD (raw found)) (texts lines) := by
  fun_induction R.exchangeWith image lines with
  | case1 => exact exchange_nil.symm
  | case2 line later unread ih =>
    rw [texts_cons, Text.areLines_cons] at areLines
    rw [texts_cons, ih areLines.2, texts_cons, exchange_of_none unread]
  | case3 line later found more read ih =>
    rw [texts_cons, Text.areLines_cons] at areLines
    have behind : Text.AreLines (texts (later.drop more)) := by
      rw [texts_drop]
      exact areLines.2.drop more
    rw [texts_append, ih behind, texts_cons, exchange_of_some read, texts_drop]
    congr 1
    cases image found with
    | some text => exact SourcedLine.texts_ofText _ text
    | none =>
      have kept := Text.areLines_cons.2 ⟨areLines.1, areLines.2.take more⟩
      rw [Option.getD_none, raws _ _ _ _ read, Text.lines_ofLines kept (List.cons_ne_nil _ _),
        texts_cons, SourcedLine.texts_take]

theorem of_mem_foundWith {x : α × SourcedLine} (h : x ∈ R.foundWith lines) :
    x.2 ∈ lines ∧ ∃ later more, R x.2.1 later = some (x.1, more) := by
  fun_induction R.foundWith lines with
  | case1 => exact absurd h List.not_mem_nil
  | case2 line later unread ih =>
    obtain ⟨mem, read⟩ := ih h
    exact ⟨List.mem_cons_of_mem _ mem, read⟩
  | case3 line later found more read ih =>
    rcases List.mem_cons.1 h with rfl | h
    · exact ⟨List.mem_cons_self, _, more, read⟩
    · obtain ⟨mem, read'⟩ := ih h
      exact ⟨List.mem_cons_of_mem _ (List.mem_of_mem_drop mem), read'⟩

/-- A line stays with its source, or it is a line of the image of a form. -/
theorem of_mem_exchangeWith {x : SourcedLine} (h : x ∈ R.exchangeWith image lines) :
    x ∈ lines ∨ ∃ form ∈ R.foundWith lines, ∃ text, image form.1 = some text ∧
      x ∈ ofText .answered text := by
  fun_induction R.exchangeWith image lines with
  | case1 => exact absurd h List.not_mem_nil
  | case2 line later unread ih =>
    rw [foundWith_of_none unread]
    rcases List.mem_cons.1 h with rfl | h
    · exact .inl List.mem_cons_self
    · exact (ih h).imp_left (List.mem_cons_of_mem _)
  | case3 line later found more read ih =>
    rw [foundWith_of_some read]
    rcases List.mem_append.1 h with h | h
    · cases imaged : image found with
      | some text =>
        rw [imaged] at h
        exact .inr ⟨_, List.mem_cons_self, text, imaged, h⟩
      | none =>
        rw [imaged] at h
        rcases List.mem_cons.1 h with rfl | h
        · exact .inl List.mem_cons_self
        · exact .inl (List.mem_cons_of_mem _ (List.mem_of_mem_take h))
    · rcases ih h with mem | ⟨form, mem, answer⟩
      · exact .inl (List.mem_cons_of_mem _ (List.mem_of_mem_drop mem))
      · exact .inr ⟨form, List.mem_cons_of_mem _ mem, answer⟩

end LineReader

/-- A step that asks a handler about occurrences in turn, and comes to a result unless the answer to
one of them has no text, where it ends. -/
inductive Traced.Asks {α : Type} (h : Handler) (x : Traced α) (a : α) : List Occurrence → Prop
  | done {os : List Occurrence} : x.result = .ok a → x.trace.calls.map (·.occurrence) = os →
      Asks h x a os
  | ended {e : NumberError} {before rest : List Occurrence} {o : Occurrence} :
      x.result = .error e → x.trace.calls.map (·.occurrence) = before ++ [o] → ¬ h.Settles o →
      Asks h x a (before ++ o :: rest)

namespace Traced.Asks

variable {α β : Type} {h : Handler} {x : Traced α} {a : α} {os : List Occurrence}

theorem ofYields {calls : List Call} (hx : x.Yields a calls) :
    Asks h x a (calls.map (·.occurrence)) :=
  .done hx.result (congrArg _ hx.calls)

theorem bind {f : α → Traced β} {b : β} {later : List Occurrence} (hx : Asks h x a os)
    (hf : Asks h (f a) b later) : Asks h (x >>= f) b (os ++ later) := by
  cases hx with
  | ended failed calls unsettled =>
    -- the later step is not reached, so what it would ask is left
    obtain ⟨trace, result⟩ := bind_of_error (f := f) failed
    rw [List.append_assoc, List.cons_append]
    exact .ended result (by rw [trace, calls]) unsettled
  | done ok calls =>
    obtain ⟨trace, result⟩ := bind_of_ok (f := f) ok
    have all : (x >>= f).trace.calls.map (·.occurrence) =
        os ++ (f a).trace.calls.map (·.occurrence) := by
      rw [trace, Trace.calls_append, List.map_append, calls]
    cases hf with
    | done ok' calls' => exact .done (result.trans ok') (by rw [all, calls'])
    | ended failed calls' unsettled =>
      rw [← List.append_assoc]
      refine .ended (result.trans failed) ?_ unsettled
      rw [all, calls', List.append_assoc]

theorem thenYields {f : α → Traced β} {b : β} (hx : Asks h x a os) (hf : (f a).Yields b []) :
    Asks h (x >>= f) b os := by
  have all := hx.bind (Asks.ofYields hf)
  rwa [List.map_nil, List.append_nil] at all

theorem thenLog {notes : List Note} {f : Unit → Traced β} {b : β} (hf : Asks h (f ()) b os) :
    Asks h (log notes >>= f) b os :=
  (Asks.ofYields (Yields.ofLog notes)).bind hf

theorem eq_of_ok {b : α} (hx : Asks h x a os) (ok : x.result = .ok b) : b = a := by
  cases hx with
  | done result _ => exact Except.ok.inj (ok.symm.trans result)
  | ended failed _ _ => exact nomatch ok.symm.trans failed

theorem calls_eq_take (hx : Asks h x a os) :
    x.trace.calls.map (·.occurrence) = os.take x.trace.calls.length := by
  rw [← List.length_map (·.occurrence)]
  cases hx with
  | done _ calls => rw [calls, List.take_length]
  | @ended _ before rest o _ calls _ =>
    rw [calls, ← List.singleton_append (l := rest), ← List.append_assoc, List.take_left]

theorem one_lt_length {first second : Occurrence} {os : List Occurrence}
    (hx : Asks h x a (first :: second :: os)) (settles : h.Settles first) :
    1 < x.trace.calls.length := by
  rw [← List.length_map (·.occurrence)]
  generalize same : first :: second :: os = all at hx
  cases hx with
  | done _ calls => simp [calls, ← same]
  | @ended _ before rest o _ calls unsettled =>
    cases before with
    | nil =>
      obtain rfl := (List.cons.inj same).1
      exact absurd settles unsettled
    | cons o' before => simp [calls]

end Traced.Asks

namespace Engine

open SourcedLine (texts ofText)

variable {r : Registration} {page : Entries}

theorem settles_of_replacement {o : Occurrence} {text : Text}
    (ok : (replacement r o).result = .ok text) : r.handler.Settles o := by
  rw [(replacement_eq r o).2.2] at ok
  cases run : r.handler.run o with
  | error failure =>
    rw [run] at ok
    cases worded : failure.message with
    | error e => simp [worded, Except.map] at ok
    | ok message => exact .inl ⟨failure, message, run, worded⟩
  | ok v =>
    rw [run] at ok
    refine .inr ?_
    rw [Handler.answer?, run]
    cases v with
    | null => rfl
    | _ => exact congrArg (·.toOption.isSome) ok

theorem replacement_asks (r : Registration) (o : Occurrence) :
    (replacement r o).Asks r.handler (r.handler.outcome o) [o] := by
  by_cases settles : r.handler.Settles o
  · exact Traced.Asks.ofYields (replacement_yields settles)
  · have calls := (replacement_eq r o).1
    cases result : (replacement r o).result with
    | ok text => exact absurd (settles_of_replacement result) settles
    | error e =>
      have last : (replacement r o).trace.calls.map (·.occurrence) = [] ++ [o] := by
        rw [calls]
        rfl
      exact .ended result last settles

theorem replacements_asks (r : Registration) (os : List Occurrence) :
    (replacements r os).Asks r.handler (os.map r.handler.outcome) os := by
  induction os with
  | nil => exact Traced.Asks.ofYields (Traced.Yields.ofPure [])
  | cons o os ih =>
    exact (replacement_asks r o).bind (ih.thenYields (Traced.Yields.ofPure _))

/-- A pass asks for what is found from line to line, and exchanges it for the outcomes. -/
theorem applyForm_asks (free : '\n' ∉ r.name) (page : Entries) (form : Form) (text : Text) :
    (applyForm r page text form).Asks r.handler
      (Text.ofLines ((reader r.name page form).exchange r.handler.outcome (Text.lines text)))
      ((reader r.name page form).found (Text.lines text)) := by
  have reads := recogniser_reads free page form
  have scanned : (scan text r.name form page).map (·.found) =
      (reader r.name page form).found (Text.lines text) := by
    rw [scan, reads.all_eq, LineReader.map_found_allFrom]
  have spliced : Splice.behind text 0 ((scan text r.name form page).map fun s =>
      ((s.start, s.stop), r.handler.outcome s.found)) =
      Text.ofLines ((reader r.name page form).exchange r.handler.outcome (Text.lines text)) := by
    rw [scan, Search.behind_all, reads.exchange_eq]
  rw [← scanned, ← spliced, applyForm]
  generalize scan text r.name form page = hits
  cases hits with
  | nil => exact Traced.Asks.ofYields (Traced.Yields.ofPure text)
  | cons hit hits =>
    have answers := replacements_asks r ((hit :: hits).map (·.found))
    rw [List.map_map] at answers
    rw [← List.zip_map']
    exact Traced.Asks.thenLog (answers.thenYields (Traced.Yields.ofPure _))

/-- What the passes of a registration find, each with the line at which it is read. -/
def handed (r : Registration) (page : Entries) :
    List Form → List SourcedLine → List (Occurrence × SourcedLine)
  | [], _ => []
  | form :: forms, lines =>
    (reader r.name page form).foundWith lines ++
      handed r page forms ((reader r.name page form).exchangeWith r.handler.answer? lines)

theorem texts_exchangeWith (r : Registration) (page : Entries) (form : Form)
    {lines : List SourcedLine} (ls : Text.AreLines (texts lines)) :
    texts ((reader r.name page form).exchangeWith r.handler.answer? lines) =
      (reader r.name page form).exchange r.handler.outcome (texts lines) :=
  LineReader.texts_exchangeWith (fun _ _ _ _ read => raw_of_reader read) ls

theorem areLines_exchangeWith {form : Form} {lines : List SourcedLine}
    (ls : Text.AreLines (texts lines)) :
    Text.AreLines (texts ((reader r.name page form).exchangeWith r.handler.answer? lines)) := by
  rw [texts_exchangeWith r page form ls]
  exact LineReader.areLines_exchange ls

theorem applyForms_asks (free : '\n' ∉ r.name) (page : Entries) (forms : List Form)
    {lines : List SourcedLine} (ls : Text.AreLines (texts lines)) (ne : texts lines ≠ []) :
    ∃ out, (forms.foldlM (applyForm r page) (Text.ofLines (texts lines))).Asks r.handler out
      ((handed r page forms lines).map (·.1)) := by
  -- the next pass reads the text that this one leaves, of which the lines keep their sources
  induction forms generalizing lines with
  | nil => exact ⟨_, Traced.Asks.ofYields (Traced.Yields.ofPure _)⟩
  | cons form forms ih =>
    have pass := applyForm_asks free page form (Text.ofLines (texts lines))
    have next := texts_exchangeWith r page form ls
    rw [Text.lines_ofLines ls ne, ← next, ← LineReader.map_foundWith] at pass
    obtain ⟨out, others⟩ := ih (areLines_exchangeWith ls) (next ▸ LineReader.exchange_ne_nil _ _ ne)
    refine ⟨out, ?_⟩
    rw [List.foldlM_cons, handed, List.map_append]
    exact pass.bind others

/-- Whatever is found opens at its line, and a line that was not there at first is a line of what
the handler has answered to something found before. -/
theorem of_mem_handed {forms : List Form} {lines : List SourcedLine}
    (ls : Text.AreLines (texts lines)) {x : Occurrence × SourcedLine}
    (h : x ∈ handed r page forms lines) :
    Text.firstLine x.1.raw = x.2.1 ∧
      (x.2 ∈ lines ∨ ∃ y ∈ handed r page forms lines, ∃ answer,
        r.handler.answer? y.1 = some answer ∧ x.2 ∈ ofText .answered answer) := by
  induction forms generalizing lines with
  | nil => exact absurd h List.not_mem_nil
  | cons form forms ih =>
    rw [handed] at h ⊢
    rcases List.mem_append.1 h with h | h
    · obtain ⟨mem, later, more, read⟩ := LineReader.of_mem_foundWith h
      refine ⟨?_, .inl mem⟩
      rw [raw_of_reader read, Text.firstLine_ofLines (ls _ (List.mem_map_of_mem mem))]
    · obtain ⟨opens, source⟩ := ih (areLines_exchangeWith ls) h
      refine ⟨opens, ?_⟩
      rcases source with mem | ⟨y, mem, answer⟩
      · refine (LineReader.of_mem_exchangeWith mem).imp_right fun ⟨y, mem, answer⟩ => ?_
        exact ⟨y, List.mem_append_left _ mem, answer⟩
      · exact .inr ⟨y, List.mem_append_right _ mem, answer⟩

/-- Every call of a run with one registration is for a directive that opens at a line of the text,
and not at a line of an answer. -/
def OpensGivenLines (engine : Engine) (r : Registration) (page : Entries) (text : Text) : Prop :=
  ∀ x ∈ (handed r page r.forms.list (ofText .given text)).take
      (process engine page text).trace.calls.length,
    x.2.2 = .given ∧ x.2.1 ∈ Text.lines text

/-- No line of an answer to an inline directive opens a directive of the same name. -/
def AnswersOpenNone (r : Registration) (page : Entries) : Prop :=
  ∀ tail, '\n' ∉ tail → isInlineTail tail = true → ∀ answer,
    r.handler.answer? (inlineOccurrence page r.name tail) = some answer →
      ∀ line ∈ Text.lines answer, opening? r.name line = none

theorem of_mem_ofText {source : LineSource} {text : Text} {x : SourcedLine}
    (h : x ∈ ofText source text) : x.2 = source ∧ x.1 ∈ Text.lines text := by
  obtain ⟨line, mem, rfl⟩ := List.mem_map.1 h
  exact ⟨rfl, mem⟩

/-- The first block of lines that are closed below opens at one of them. -/
theorem exists_cons_foundWith (page : Entries) {name : Text} (closing : SourcedLine)
    (closed : closes closing.1 = true) {lines : List SourcedLine}
    (opens : ∃ line ∈ lines, opening? name line.1 ≠ none) :
    ∃ x rest, (reader name page .block).foundWith (lines ++ [closing]) = x :: rest ∧
      x.2 ∈ lines := by
  induction lines with
  | nil => exact absurd opens (by simp)
  | cons line later ih =>
    rw [List.cons_append]
    cases read : reader name page .block line.1 (texts (later ++ [closing])) with
    | some found => exact ⟨_, _, LineReader.foundWith_of_some read, List.mem_cons_self⟩
    | none =>
      have unread : opening? name line.1 = none := by
        refine (blockLines_eq_none_iff.1 read).resolve_right fun never => ?_
        rw [List.findIdx?_eq_none_iff] at never
        have := never closing.1 (by simp)
        exact absurd closed (by simp [this])
      have below : ∃ line ∈ later, opening? name line.1 ≠ none := by
        simpa [unread] using opens
      obtain ⟨x, rest, found, mem⟩ := ih below
      exact ⟨x, rest, (LineReader.foundWith_of_none read).trans found, List.mem_cons_of_mem _ mem⟩

/-- Of an inline directive with a closing line below it, the inline pass finds the directive and the
block pass a block that opens in the answer. -/
theorem exists_handed_of_answer (named : Text.isName r.name = true)
    (unreserved : isReserved r.name = false) (both : r.forms = .both) {tail answer line : Text}
    (free : '\n' ∉ tail) (blank : isInlineTail tail = true)
    (answered : r.handler.answer? (inlineOccurrence page r.name tail) = some answer)
    (mem : line ∈ Text.lines answer) (opens : opening? r.name line ≠ none) :
    ∃ x rest, x.2 ∈ ofText .answered answer ∧
      handed r page r.forms.list
          (ofText .given (Text.ofLines [openingLine r.name tail, closingLine])) =
        (inlineOccurrence page r.name tail, openingLine r.name tail, .given) :: x :: rest := by
  have lines : Text.lines (Text.ofLines [openingLine r.name tail, closingLine]) =
      [openingLine r.name tail, closingLine] := by
    refine Text.lines_ofLines ?_ (List.cons_ne_nil _ _)
    exact Text.areLines_cons.2 ⟨newline_notMem_openingLine named free,
      Text.areLines_cons.2 ⟨newline_notMem_closingLine, Text.areLines_nil⟩⟩
  -- the inline pass reads the first line only, and the block pass starts in the answer
  have inline : reader r.name page .inline (openingLine r.name tail) [closingLine] =
      some (inlineOccurrence page r.name tail, 0) :=
    reader_inline_eq_some_iff.2 ⟨tail, rfl, blank, rfl, rfl⟩
  have idle : reader r.name page .inline closingLine [] = none :=
    reader_of_opening? (opening?_of_closes named unreserved closes_closingLine) []
  have opened : ∃ line ∈ ofText .answered answer, opening? r.name line.1 ≠ none :=
    ⟨(line, .answered), List.mem_map_of_mem mem, opens⟩
  obtain ⟨x, rest, second, inAnswer⟩ :=
    exists_cons_foundWith page (closingLine, .given) closes_closingLine opened
  refine ⟨x, rest, inAnswer, ?_⟩
  have forms : r.forms.list = [.inline, .block] := by rw [both]; rfl
  rw [forms, ofText, lines, handed, handed, handed, List.append_nil]
  simp only [List.map_cons, List.map_nil, LineReader.foundWith, LineReader.exchangeWith,
    SourcedLine.texts_cons, SourcedLine.texts_nil, inline, idle, answered, List.drop_zero,
    List.cons_append, List.nil_append, second]

section Single

variable {engine : Engine} (wf : engine.registry.WellFormed)
  (single : engine.registry.registrations = [r])

include wf single

theorem process_asks (page : Entries) (text : Text) :
    ∃ out, (process engine page text).Asks r.handler out
      ((handed r page r.forms.list (ofText .given text)).map (·.1)) := by
  have sorted : engine.registry.sorted = [r] := by
    rw [Registry.sorted_of_pairwise (by simp [single]), single]
  have free : '\n' ∉ r.name := wf.newline_notMem (by simp [single])
  have lines : texts (ofText .given text) = Text.lines text := SourcedLine.texts_ofText _ _
  have ls : Text.AreLines (texts (ofText .given text)) := by
    rw [lines]
    exact Text.areLines_lines text
  obtain ⟨out, passes⟩ :=
    applyForms_asks free page r.forms.list ls (lines ▸ Text.lines_ne_nil text)
  rw [lines, Text.ofLines_lines] at passes
  rw [process, expand, sorted]
  have expanded := passes.thenYields (f := fun text => pure text) (Traced.Yields.ofPure out)
  exact ⟨_, expanded.thenYields (settle_yields engine.policy out)⟩

theorem process_hands (page : Entries) (text : Text) :
    (process engine page text).trace.calls.map (·.occurrence) =
      ((handed r page r.forms.list (ofText .given text)).map (·.1)).take
        (process engine page text).trace.calls.length := by
  obtain ⟨_, asks⟩ := process_asks wf single page text
  exact asks.calls_eq_take

theorem firstLine_mem_of_opensGivenLines {text : Text} (given : OpensGivenLines engine r page text)
    {c : Call} (hc : c ∈ (process engine page text).trace.calls) :
    Text.firstLine c.occurrence.raw ∈ Text.lines text := by
  have mem := List.mem_map_of_mem (f := (·.occurrence)) hc
  rw [process_hands wf single, ← List.map_take] at mem
  obtain ⟨x, hx, same⟩ := List.mem_map.1 mem
  have ls : Text.AreLines (texts (ofText .given text)) := by
    rw [SourcedLine.texts_ofText]
    exact Text.areLines_lines text
  rw [← same, (of_mem_handed ls (List.mem_of_mem_take hx)).1]
  exact (given x hx).2

/-- An answer to an inline directive that opens a block of the same name, which is closed below, is
handed to the handler again. -/
theorem not_opensGivenLines_of_answer (both : r.forms = .both) {tail answer line : Text}
    (free : '\n' ∉ tail) (blank : isInlineTail tail = true)
    (answered : r.handler.answer? (inlineOccurrence page r.name tail) = some answer)
    (mem : line ∈ Text.lines answer) (opens : opening? r.name line ≠ none) :
    ¬ OpensGivenLines engine r page (Text.ofLines [openingLine r.name tail, closingLine]) := by
  intro given
  have hr : r ∈ engine.registry.registrations := by rw [single]; exact List.mem_singleton_self r
  obtain ⟨x, rest, inAnswer, all⟩ := exists_handed_of_answer (wf.isName r hr) (wf.notReserved r hr)
    both free blank answered mem opens
  obtain ⟨_, asks⟩ := process_asks wf single page
    (Text.ofLines [openingLine r.name tail, closingLine])
  rw [all, List.map_cons, List.map_cons] at asks
  have long := asks.one_lt_length (Handler.settles_of_answer answered)
  rw [OpensGivenLines, all] at given
  have source := (given x (List.mem_take_iff_getElem.2 ⟨1, Nat.lt_min.2 ⟨long, by simp⟩, rfl⟩)).1
  rw [(of_mem_ofText inAnswer).1] at source
  exact LineSource.noConfusion source

end Single

theorem mem_of_mem_handed_single {form : Form} {lines : List SourcedLine}
    {x : Occurrence × SourcedLine} (h : x ∈ handed r page [form] lines) : x.2 ∈ lines := by
  rw [handed, handed, List.append_nil] at h
  exact (LineReader.of_mem_foundWith h).1

theorem opensGivenLines_of_answersOpenNone {engine : Engine}
    (flat : r.forms = .both → AnswersOpenNone r page) (text : Text) :
    OpensGivenLines engine r page text := by
  intro x hx
  replace hx := List.mem_of_mem_take hx
  suffices mem : x.2 ∈ ofText .given text from of_mem_ofText mem
  cases forms : r.forms with
  | inline =>
    rw [forms] at hx
    exact mem_of_mem_handed_single hx
  | block =>
    rw [forms] at hx
    exact mem_of_mem_handed_single hx
  | both =>
    rw [forms] at hx
    have both : Forms.both.list = [.inline, .block] := rfl
    rw [both, handed] at hx
    rcases List.mem_append.1 hx with first | second
    · exact (LineReader.of_mem_foundWith first).1
    · rw [handed, handed, List.append_nil] at second
      obtain ⟨mem, later, more, read⟩ := LineReader.of_mem_foundWith second
      rcases LineReader.of_mem_exchangeWith mem with mem | ⟨y, hy, answer, answered, source⟩
      · exact mem
      · -- a line of an answer to the inline pass opens nothing, so no block is read at it
        obtain ⟨inText, later', more', asked⟩ := LineReader.of_mem_foundWith hy
        obtain ⟨tail, opening, blank, same, -⟩ := reader_inline_eq_some_iff.1 asked
        have free : '\n' ∉ tail := fun newline =>
          Text.areLines_lines text _ (of_mem_ofText inText).2
            (opening ▸ List.mem_append_right _ newline)
        rw [same] at answered
        have closed := flat forms tail free blank answer answered _ (of_mem_ofText source).2
        rw [reader_of_opening? closed] at read
        exact nomatch read

/-- A run with one registration calls for what its passes find, in order and up to an answer without
text, each at its line, which is a line of the text or of an answer. It opens at lines of the text
only, whatever the text, exactly if the registration has one form, or if no answer to its inline
directives opens a directive of its name. -/
theorem opensGivenLines_iff {engine : Engine} (wf : engine.registry.WellFormed)
    (single : engine.registry.registrations = [r]) (page : Entries) :
    (∀ text,
        let calls := (process engine page text).trace.calls
        let all := handed r page r.forms.list (ofText .given text)
        calls.map (·.occurrence) = (all.map (·.1)).take calls.length ∧
          ∀ x ∈ all, Text.firstLine x.1.raw = x.2.1 ∧
            (x.2 ∈ ofText .given text ∨ ∃ y ∈ all, ∃ answer,
              r.handler.answer? y.1 = some answer ∧ x.2 ∈ ofText .answered answer)) ∧
      ((∀ text, OpensGivenLines engine r page text) ↔
        (r.forms = .both → AnswersOpenNone r page)) := by
  refine ⟨fun text => ⟨process_hands wf single page text, fun x hx => of_mem_handed ?_ hx⟩, ?_⟩
  · rw [SourcedLine.texts_ofText]
    exact Text.areLines_lines text
  · constructor
    · intro given both tail free blank answer answered line mem
      by_contra opens
      exact not_opensGivenLines_of_answer wf single both free blank answered mem opens (given _)
    · exact fun flat text => opensGivenLines_of_answersOpenNone flat text

/-- A registration in both forms whose answers are plain. -/
theorem opensGivenLines_of_plain_answers :
    let done : Registration := ⟨"task", .both, 100, ⟨.custom none, fun _ => .ok (.text "done")⟩⟩
    let engine : Engine := ⟨{ registrations := [done] }, .warn, "---"⟩
    engine.registry.WellFormed ∧ engine.registry.registrations = [done] ∧
      (process engine [] "::task a\n::task\n::end").trace.calls.map (·.occurrence.raw) =
        ["::task a", "::task\n::end"] ∧
      ∀ text, OpensGivenLines engine done [] text := by
  intro done engine
  have wf : engine.registry.WellFormed := ⟨by decide, by decide, by decide⟩
  refine ⟨wf, rfl, ?_, (opensGivenLines_iff wf rfl []).2.2 ?_⟩
  · have sorted : engine.registry.sorted = [done] := Registry.sorted_of_pairwise (by decide)
    rw [process, expand, sorted]
    decide +kernel
  · intro _ tail _ _ answer answered line mem
    obtain rfl : "done".toList = answer := Option.some.inj answered
    have plain : ∀ line ∈ Text.lines "done", opening? "task" line = none := by decide
    exact plain line mem

/-- A handler that answers to an inline directive with a block of its own name is called for it. -/
theorem not_opensGivenLines :
    let answer (o : Occurrence) : Text := "::loop\n" ++ o.form.word ++ "\n::end"
    let loop : Registration := ⟨"loop", .both, 100, ⟨.custom none, fun o => .ok (.text (answer o))⟩⟩
    let engine : Engine := ⟨{ registrations := [loop] }, .warn, "---"⟩
    engine.registry.WellFormed ∧ engine.registry.registrations = [loop] ∧
      (process engine [] "::loop a").trace.calls.map (·.occurrence.raw) =
        ["::loop a", "::loop\ninline\n::end"] ∧
      ¬ OpensGivenLines engine loop [] "::loop a" := by
  intro answer loop engine
  have wf : engine.registry.WellFormed := ⟨by decide, by decide, by decide⟩
  have sorted : engine.registry.sorted = [loop] := Registry.sorted_of_pairwise (by decide)
  have raws : (process engine [] "::loop a").trace.calls.map (·.occurrence.raw) =
      ["::loop a", "::loop\ninline\n::end"] := by
    rw [process, expand, sorted]
    decide +kernel
  refine ⟨wf, rfl, raws, fun given => ?_⟩
  have second : "::loop\ninline\n::end".toList ∈
      (process engine [] "::loop a").trace.calls.map (·.occurrence.raw) := by
    rw [raws]
    decide
  obtain ⟨c, hc, same⟩ := List.mem_map.1 second
  have mem := firstLine_mem_of_opensGivenLines wf rfl given hc
  rw [same] at mem
  exact absurd mem (by decide)

end Engine
end PageDirectives
