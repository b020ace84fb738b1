import PageDirectives.Proofs.Directive.Leftover
import PageDirectives.Proofs.Engine.Blocks
/-!
Names as scans see them and as the search for leftovers sees them. A scan looks for one name and asks
that it is complete, or that a blank stands behind it; what is left over is read as the longest run
of name characters. The two agree: a directive of a valid name starts at a line that shows just that
name. So a line belongs to one name at most, also where one name begins with another, and a text that
shows no registered name is left as it is.
-/
namespace PageDirectives.Engine

open Directive

variable {name name' text : Text} {form form' : Form} {page page' : Entries}

/-- A directive that is found starts at a line that shows its name and leaves it over. -/
theorem exists_shown_of_mem_scan (valid : Text.isName name = true) {s : Located Occurrence}
    (hs : s ∈ scan text name form page) :
    ∃ line, Text.LineAt text s.start line ∧ shownName? line = some name ∧
      leftovers line = if isReserved name then [] else [name] := by
  have free := Text.newline_notMem_of_isName valid
  obtain ⟨line, later, more, lineAt, read⟩ := exists_lineAt_of_mem_scan free hs
  have shown := shownName?_of_reader valid read
  refine ⟨line, lineAt, shown, ?_⟩
  rw [leftovers_line lineAt.free, shown]
  cases reserved : isReserved name <;> simp [reserved]

theorem name_eq_of_start_eq (valid : Text.isName name = true) (valid' : Text.isName name' = true)
    {s s' : Located Occurrence} (hs : s ∈ scan text name form page)
    (hs' : s' ∈ scan text name' form' page') (same : s.start = s'.start) : name = name' := by
  obtain ⟨line, lineAt, shown, -⟩ := exists_shown_of_mem_scan valid hs
  obtain ⟨line', lineAt', shown', -⟩ := exists_shown_of_mem_scan valid' hs'
  obtain rfl := lineAt.unique (same ▸ lineAt')
  exact Option.some.inj (shown.symm.trans shown')

/-- A line that opens directives of a name shows it. -/
theorem opening?_of_shownName?_ne {line : Text} (valid : Text.isName name = true)
    (other : shownName? line ≠ some name) : opening? name line = none := by
  refine Option.eq_none_iff_forall_ne_some.2 fun rest opened => other ?_
  obtain ⟨rfl, ends⟩ := opening?_eq_some_iff.1 opened
  exact shownName?_openingLine valid ends

/-- A run that finds no registered name in a text only reports the names that the text shows. -/
theorem process_of_unregistered {registry : Registry} (wf : registry.WellFormed)
    (unregistered : ∀ r ∈ registry.registrations, ∀ line ∈ Text.lines text,
      shownName? line ≠ some r.name) (delimiter : Text) (page : Entries) :
    process ⟨registry, .warn, delimiter⟩ page text =
      ⟨⟨(leftovers text).map (leftoverNote .warn), []⟩, .ok text⟩ := by
  have order := order_sorted wf
  have unread : ∀ r ∈ registry.sorted, ∀ line ∈ Text.lines text, opening? r.name line = none :=
    fun r hr line hl => opening?_of_shownName?_ne (order.valid r hr)
      (unregistered r (Registry.mem_sorted.1 hr) line hl)
  have idle : expand ⟨registry, .warn, delimiter⟩ page text = pure text :=
    foldlM_eq_pure fun r hr => applyForms_of_unread (order.newline_notMem hr) (unread r hr)
  have settled : settle .warn text = ⟨⟨(leftovers text).map (leftoverNote .warn), []⟩, .ok text⟩ :=
    Traced.bind_eq_of_pure rfl rfl
  rw [process, idle]
  change Traced.mk ({} ++ (settle .warn text).trace) (settle .warn text).result = _
  rw [settled]
  rfl

/-- Whatever is found under a valid name, in either form, starts at a line of which the name is the
longest run of name characters behind the mark, and which leaves it over unless it is reserved. No
two names have a start in common, and a text that shows no registered name stays as it is, with a
warning for each name that it shows and without a call. -/
theorem names_agree {registry : Registry} (wf : registry.WellFormed) (text : Text) :
    (∀ name, Text.isName name = true → ∀ form page, ∀ s ∈ scan text name form page,
      ∃ line, Text.LineAt text s.start line ∧ shownName? line = some name ∧
        leftovers line = if isReserved name then [] else [name]) ∧
    leftovers text = ((Text.lines text).flatMap leftovers).eraseDups ∧
    (∀ name name', Text.isName name = true → Text.isName name' = true →
      ∀ form form' page page', ∀ s ∈ scan text name form page,
        ∀ s' ∈ scan text name' form' page', s.start = s'.start → name = name') ∧
    ((∀ r ∈ registry.registrations, ∀ line ∈ Text.lines text, shownName? line ≠ some r.name) →
      ∀ delimiter page, process ⟨registry, .warn, delimiter⟩ page text =
        ⟨⟨(leftovers text).map (leftoverNote .warn), []⟩, .ok text⟩) :=
  ⟨fun _ valid _ _ _ hs => exists_shown_of_mem_scan valid hs, leftovers_eq_flatMap text,
    fun _ _ valid valid' _ _ _ _ _ hs _ hs' same => name_eq_of_start_eq valid valid' hs hs' same,
    fun unregistered => process_of_unregistered wf unregistered⟩

/-- A name of which one that is registered is the beginning, and which is itself the beginning of
another. -/
theorem names_agree_of_prefixes :
    let answer : Handler := ⟨.custom none, fun _ => .ok (.text "X")⟩
    let registry : Registry := { registrations :=
      [⟨"car", .both, 100, answer⟩, ⟨"cards", .both, 100, answer⟩] }
    let text : Text := "::card 3\nbody\n::end\n::card\u0085x"
    registry.WellFormed ∧
      (scan text "card" .inline []).map (fun s => (s.start, s.found.value)) =
        [(0, ['3']), (20, ['x'])] ∧
      (scan text "card" .block []).map (fun s => (s.start, s.stop)) = [(0, 19)] ∧
      leftovers text = ["card".toList] ∧
      (∀ name, Text.isName name = true → ∀ form page, ∀ s ∈ scan text name form page,
        ∃ line, Text.LineAt text s.start line ∧ shownName? line = some name ∧
          leftovers line = if isReserved name then [] else [name]) ∧
      process ⟨registry, .warn, "---"⟩ [] text =
        ⟨⟨[leftoverNote .warn "card"], []⟩, .ok text⟩ := by
  intro answer registry text
  have wf : registry.WellFormed := ⟨by decide, by decide, by decide⟩
  obtain ⟨shown, -, -, idle⟩ := names_agree wf text
  have left : leftovers text = ["card".toList] := by decide +kernel
  have same := idle (by decide +kernel) "---" []
  rw [left] at same
  exact ⟨wf, by decide +kernel, by decide +kernel, left, shown, same⟩

end PageDirectives.Engine
