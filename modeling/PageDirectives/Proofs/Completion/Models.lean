import PageDirectives.Proofs.Completion.DocumentOrder
import PageDirectives.Proofs.Directive.Arguments
import PageDirectives.Proofs.Text.Trimming
/-!
Models that directives name. A block reads its arguments as all directives do, so the quotes around
the name of a model are no part of it. An inline directive takes what follows `model=` up to the
next blank, with the quotes if there are any. So both forms ask the same model for the same prompt
exactly if the name is written without quotes.
-/
namespace PageDirectives.Prompted

open Directive Argument

/-- A name that a model can have: it is not empty, and holds no blank and no quote. -/
structure ModelName (model : Text) : Prop where
  filled : model ≠ []
  plain : ∀ c ∈ model, Text.isBlank c = false ∧ c ≠ '"' ∧ c ≠ '\''

instance (model : Text) : Decidable (ModelName model) :=
  let _ := List.decidableBAll (fun c => Text.isBlank c = false ∧ c ≠ '"' ∧ c ≠ '\'') model
  decidable_of_iff (model ≠ [] ∧ ∀ c ∈ model, Text.isBlank c = false ∧ c ≠ '"' ∧ c ≠ '\'')
    ⟨fun h => ⟨h.1, h.2⟩, fun h => ⟨h.filled, h.plain⟩⟩

/-- A prompt as it can stand on a line, without blanks around it. -/
structure LinePrompt (prompt : Text) : Prop where
  filled : prompt ≠ []
  trimmed : Text.trim prompt = prompt
  oneLine : '\n' ∉ prompt

/-- An argument that names a model. -/
def modelItem (quoting : Quoting) (model : Text) : Item := .pair ⟨"model", model⟩ quoting

/-- The argument before a prompt, on one line. -/
def inlineAsk (quoting : Quoting) (model prompt : Text) : Prompted :=
  ⟨false, (modelItem quoting model).write ++ ' ' :: prompt, []⟩

/-- The argument on the line that opens a block. -/
def blockAsk (quoting : Quoting) (model body : Text) : Prompted :=
  ⟨true, (modelItem quoting model).write, body⟩

/-- What asks a model for a prompt. -/
def asking (model prompt : Text) : Query := ⟨prompt, [(.text "model", .text model)]⟩

/-- Both forms ask the model for the prompt, whatever the default prompt is. -/
def ReadsAlike (quoting : Quoting) (model prompt : Text) : Prop :=
  ∀ defaultPrompt, (inlineAsk quoting model prompt).query defaultPrompt = asking model prompt ∧
    ∀ body, Text.trim body = prompt →
      (blockAsk quoting model body).query defaultPrompt = asking model prompt

variable {quoting : Quoting} {model prompt : Text}

section Names

theorem ModelName.valid (named : ModelName model) (quoting : Quoting) :
    (modelItem quoting model).Valid := by
  have isName : Text.isName "model" = true := by decide
  refine ⟨isName, ?_⟩
  cases quoting with
  | bare =>
    exact ⟨named.filled, fun c hc => (named.plain c hc).1,
      fun c hc => (named.plain c (List.mem_of_head? hc)).2⟩
  | single => exact fun mem => (named.plain _ mem).2.2 rfl
  | double => exact fun mem => (named.plain _ mem).2.1 rfl

theorem isBlank_mark (quoting : Quoting) : ∀ c ∈ quoting.mark, Text.isBlank c = false := by
  cases quoting with
  | bare => exact List.forall_mem_nil _
  | single => exact List.forall_mem_singleton.2 rfl
  | double => exact List.forall_mem_singleton.2 rfl

theorem write_model (quoting : Quoting) (model : Text) :
    (modelItem quoting model).write = "model=".toList ++ quoting.wrap model := by
  simp [modelItem, Item.write]

/-- No blank stands in the written name, whether there are quotes around it or not. -/
theorem ModelName.unbroken (named : ModelName model) (quoting : Quoting) :
    ∀ c ∈ quoting.wrap model, Text.isBlank c = false := by
  intro c hc
  rw [Quoting.wrap, List.mem_append, List.mem_append] at hc
  rcases hc with (front | inside) | back
  · exact isBlank_mark quoting c front
  · exact (named.plain c inside).1
  · exact isBlank_mark quoting c back

theorem ModelName.unbroken_write (named : ModelName model) (quoting : Quoting) :
    ∀ c ∈ (modelItem quoting model).write, Text.isBlank c = false := by
  have front : "model=".toList.all (!Text.isBlank ·) = true := by decide
  intro c hc
  rw [write_model, List.mem_append] at hc
  rcases hc with key | value
  · simpa using List.all_eq_true.1 front c key
  · exact named.unbroken quoting c value

theorem ModelName.wrap_ne_nil (named : ModelName model) (quoting : Quoting) :
    quoting.wrap model ≠ [] := by
  simp [Quoting.wrap, named.filled]

theorem wrap_eq_self_iff : quoting.wrap model = model ↔ quoting = .bare := by
  constructor
  · intro same
    have sizes := congrArg List.length same
    cases quoting with
    | bare => rfl
    | single =>
      simp only [Quoting.wrap, Quoting.mark, List.length_append, List.length_singleton] at sizes
      omega
    | double =>
      simp only [Quoting.wrap, Quoting.mark, List.length_append, List.length_singleton] at sizes
      omega
  · rintro rfl
    exact List.append_nil model

end Names

section Queries

theorem asking_inj {model' : Text} (same : asking model prompt = asking model' prompt) :
    model = model' := by
  simpa [asking] using same

theorem trim_space_append (text : Text) : Text.trim (' ' :: text) = Text.trim text := by
  have blank : ∀ c ∈ [' '], Text.isBlank c = true := List.forall_mem_singleton.2 rfl
  exact Text.trim_blank_append blank text

/-- The inline form takes the quotes for a part of the name. -/
theorem modelPrompt?_write (named : ModelName model) (worded : LinePrompt prompt)
    (quoting : Quoting) :
    modelPrompt? ((modelItem quoting model).write ++ ' ' :: prompt) =
      some (quoting.wrap model, prompt) := by
  have taken := takeWhile_unbroken (named.unbroken quoting) (apart_space prompt)
  have trimmed : Text.trim (' ' :: prompt) = prompt :=
    (trim_space_append prompt).trans worded.trimmed
  rw [write_model, List.append_assoc]
  simp only [modelPrompt?, Text.after?_append, Option.bind_eq_bind, Option.bind_some, taken,
    List.drop_left, trimmed, named.wrap_ne_nil, worded.filled, or_self, if_false]

theorem query_inlineAsk (named : ModelName model) (worded : LinePrompt prompt)
    (quoting : Quoting) (defaultPrompt : Text) :
    (inlineAsk quoting model prompt).query defaultPrompt =
      asking (quoting.wrap model) prompt := by
  have read := modelPrompt?_write named worded quoting
  simp only [query, inlineAsk, Bool.false_eq_true, if_false, read]
  rfl

theorem write_modelItem (quoting : Quoting) (model : Text) :
    (modelItem quoting model).write = write [modelItem quoting model] := by
  simp [write, Text.join]

theorem valid_modelItem (named : ModelName model) (quoting : Quoting) :
    ∀ item ∈ [modelItem quoting model], item.Valid :=
  List.forall_mem_singleton.2 (named.valid quoting)

theorem optionsOf_write (named : ModelName model) (quoting : Quoting) :
    optionsOf (modelItem quoting model).write = [(.text "model", .text model)] := by
  rw [optionsOf, write_modelItem, ofText_eq, found_write (valid_modelItem named quoting)]
  rfl

theorem query_blockAsk (named : ModelName model) (worded : LinePrompt prompt) (quoting : Quoting)
    (defaultPrompt : Text) {body : Text} (same : Text.trim body = prompt) :
    (blockAsk quoting model body).query defaultPrompt = asking model prompt := by
  obtain ⟨c, rest, rfl⟩ := List.exists_cons_of_ne_nil worded.filled
  simp only [query, blockAsk, if_true, same, Text.orElse, optionsOf_write named]
  rfl

end Queries

section Recognition

/-- A text of one line with the inline form. -/
def inlineText (quoting : Quoting) (model prompt : Text) : Text :=
  openingLine name (' ' :: (inlineAsk quoting model prompt).args)

/-- A text with the block form, whose body is the prompt. -/
def blockText (quoting : Quoting) (model prompt : Text) : Text :=
  Text.ofLines [openingLine name (' ' :: (modelItem quoting model).write), prompt, closingLine]

theorem newline_notMem_of_unbroken {text : Text} (unbroken : ∀ c ∈ text, Text.isBlank c = false) :
    '\n' ∉ text := by
  intro feed
  exact absurd (unbroken _ feed) (by decide)

theorem write_ne_nil (quoting : Quoting) (model : Text) : (modelItem quoting model).write ≠ [] :=
  List.cons_ne_nil _ _

theorem trim_args (named : ModelName model) (worded : LinePrompt prompt) (quoting : Quoting) :
    Text.trim (' ' :: (inlineAsk quoting model prompt).args) =
      (inlineAsk quoting model prompt).args := by
  have start := Text.trimStart_of_unbroken (named.unbroken_write quoting)
  have stop := Text.trimEnd_of_trim_eq worded.trimmed
  have grouped : (inlineAsk quoting model prompt).args =
      ((modelItem quoting model).write ++ [' ']) ++ prompt := by
    simp [inlineAsk]
  rw [trim_space_append, Text.trim, inlineAsk, Text.trimStart_append, start, List.append_cons,
    Text.trimEnd_append, stop]
  · rw [stop]
    exact worded.filled
  · rw [start]
    exact write_ne_nil quoting model

theorem rest?_openingLine (tail : Text) : rest? (openingLine name tail) = some tail :=
  rest?_eq_some_iff.2 ⟨[], rfl, List.forall_mem_nil _⟩

theorem isInlineTail_space {text : Text} (ne : text ≠ []) : isInlineTail (' ' :: text) = true := by
  have blank : Text.isInlineBlank ' ' = true := by decide
  have filled : 0 < text.length := List.length_pos_of_ne_nil ne
  simp only [isInlineTail, List.head?_cons, Option.any_some, blank, Bool.true_and,
    List.length_cons, decide_eq_true_iff]
  omega

theorem newline_notMem_line {args : Text} (free : '\n' ∉ args) :
    '\n' ∉ openingLine name (' ' :: args) :=
  newline_notMem_openingLine (by decide) (by simpa using free)

theorem found_inlineText (named : ModelName model) (worded : LinePrompt prompt)
    (quoting : Quoting) :
    (all (inlineText quoting model prompt)).map (·.found) = [inlineAsk quoting model prompt] := by
  have argument := newline_notMem_of_unbroken (named.unbroken_write quoting)
  have oneLine : '\n' ∉ inlineText quoting model prompt :=
    newline_notMem_line (by simp [inlineAsk, argument, worded.oneLine])
  have filled : (inlineAsk quoting model prompt).args ≠ [] :=
    List.append_ne_nil_of_left_ne_nil (write_ne_nil quoting model) _
  have single : inlineLine? (inlineText quoting model prompt) =
      some (inlineAsk quoting model prompt) := by
    apply inlineLine?_eq_some_iff.2
    refine ⟨_, rest?_openingLine _, isInlineTail_space filled, ?_⟩
    rw [trim_args named worded]
    rfl
  have read : reader (inlineText quoting model prompt) [] =
      some (inlineAsk quoting model prompt, 0) :=
    reader_eq_some_iff.2 (.inr ⟨.inr rfl, single, rfl⟩)
  rw [all_eq, Text.lines_of_notMem oneLine, LineReader.map_found_allFrom,
    LineReader.found_of_some read, List.drop_nil, LineReader.found_nil]

/-- A line with an argument that names a model opens a block. -/
theorem openingArgs?_modelItem (named : ModelName model) (quoting : Quoting) :
    openingArgs? (openingLine name (' ' :: (modelItem quoting model).write)) =
      some (modelItem quoting model).write := by
  have unbroken := named.unbroken_write quoting
  have trimmed : Text.trim (' ' :: (modelItem quoting model).write) =
      (modelItem quoting model).write := by
    rw [trim_space_append, Text.trim, Text.trimStart_of_unbroken unbroken,
      Text.trimEnd_of_unbroken unbroken]
  have ends := nameEnds_of_isInlineTail (isInlineTail_space (write_ne_nil quoting model))
  have pairs : isOnlyPairs (modelItem quoting model).write = true := by
    rw [write_modelItem, isOnlyPairs_write (valid_modelItem named quoting)]
    exact List.forall_mem_singleton.2 rfl
  exact openingArgs?_eq_some_iff.2 ⟨_, rest?_openingLine _, ends, trimmed.symm, .inr pairs⟩

theorem found_blockText (named : ModelName model) (worded : LinePrompt prompt) (quoting : Quoting)
    (open' : closes prompt = false) :
    (all (blockText quoting model prompt)).map (·.found) =
      [blockAsk quoting model (prompt ++ ['\n'])] := by
  have argument := newline_notMem_of_unbroken (named.unbroken_write quoting)
  have areLines : Text.AreLines
      [openingLine name (' ' :: (modelItem quoting model).write), prompt, closingLine] := by
    simp [newline_notMem_line argument, worded.oneLine, newline_notMem_closingLine]
  have closed : [prompt, closingLine].findIdx? closes = some 1 := by
    have ends : closes closingLine = true := by decide
    simp [List.findIdx?_cons, open', ends]
  have read : reader (openingLine name (' ' :: (modelItem quoting model).write))
      [prompt, closingLine] = some (blockAsk quoting model (prompt ++ ['\n']), 2) := by
    apply reader_eq_some_iff.2
    refine .inl ⟨_, 1, openingArgs?_modelItem named quoting, closed, ?_, rfl⟩
    simp [blockAsk, Text.beforeLine]
  rw [all_eq, blockText, Text.lines_ofLines areLines (List.cons_ne_nil _ _),
    LineReader.map_found_allFrom, LineReader.found_of_some read]
  exact congrArg _ LineReader.found_nil

end Recognition

/-- Of both forms, the block asks the model itself, and the inline directive a model whose name has
the quotes in it. Without quotes, and only then, both ask the same. -/
theorem readsAlike_iff (named : ModelName model) (worded : LinePrompt prompt) (quoting : Quoting) :
    (all (inlineText quoting model prompt)).map (·.found) = [inlineAsk quoting model prompt] ∧
    (closes prompt = false → (all (blockText quoting model prompt)).map (·.found) =
      [blockAsk quoting model (prompt ++ ['\n'])]) ∧
    (∀ defaultPrompt, (inlineAsk quoting model prompt).query defaultPrompt =
      asking (quoting.wrap model) prompt) ∧
    (∀ defaultPrompt body, Text.trim body = prompt →
      (blockAsk quoting model body).query defaultPrompt = asking model prompt) ∧
    (ReadsAlike quoting model prompt ↔ quoting = .bare) := by
  have inline := query_inlineAsk named worded quoting
  have block := fun defaultPrompt (body : Text) (same : Text.trim body = prompt) =>
    query_blockAsk named worded quoting defaultPrompt same
  refine ⟨found_inlineText named worded quoting, found_blockText named worded quoting, inline,
    block, ?_⟩
  constructor
  · intro alike
    have same := (inline []).symm.trans (alike []).1
    exact wrap_eq_self_iff.1 (asking_inj same)
  · rintro rfl defaultPrompt
    refine ⟨?_, block defaultPrompt⟩
    rw [inline, wrap_eq_self_iff.2 rfl]

/-- The prompt has pairs and quotes of its own. -/
theorem readsAlike_with_pairs :
    let model : Text := "gpt-4"
    let prompt : Text := "temperature=\"2\" model='x' Write"
    ModelName model ∧ LinePrompt prompt ∧
      all (inlineText .bare model prompt) ≠ [] ∧ ReadsAlike .bare model prompt := by
  intro model prompt
  have named : ModelName model := by decide
  have worded : LinePrompt prompt := ⟨by decide, by decide +kernel, by decide⟩
  obtain ⟨inline, -, -, -, alike⟩ := readsAlike_iff named worded .bare
  refine ⟨named, worded, ?_, alike.2 rfl⟩
  intro none
  exact absurd (inline.symm.trans (congrArg _ none)) (List.cons_ne_nil _ _)

/-- The block asks the model `gpt-4`, the inline directive one with quotes in its name. -/
theorem not_readsAlike :
    let model : Text := "gpt-4"
    let prompt : Text := "Write"
    ModelName model ∧ LinePrompt prompt ∧
      (all "::ai model=\"gpt-4\" Write").map (·.found) = [inlineAsk .double model prompt] ∧
      (inlineAsk .double model prompt).query [] = asking "\"gpt-4\"" prompt ∧
      (blockAsk .double model prompt).query [] = asking model prompt ∧
      ¬ ReadsAlike .double model prompt := by
  intro model prompt
  have named : ModelName model := by decide
  have worded : LinePrompt prompt := ⟨by decide, by decide +kernel, by decide⟩
  have inline : (inlineAsk .double model prompt).query [] = asking "\"gpt-4\"" prompt :=
    query_inlineAsk named worded .double []
  have block : (blockAsk .double model prompt).query [] = asking model prompt :=
    query_blockAsk named worded .double [] worded.trimmed
  refine ⟨named, worded, by decide +kernel, inline, block, ?_⟩
  intro alike
  have same := inline.symm.trans (alike []).1
  exact absurd (asking_inj same) (by decide)

end PageDirectives.Prompted
