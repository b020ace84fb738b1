import PageDirectives.Layout.Monokai
import PageDirectives.Proofs.Directive.Leftover
import PageDirectives.Proofs.Engine.Blocks
import PageDirectives.Proofs.Layout.Catalogue
import PageDirectives.Proofs.Site.Stages
/-!
A run changes no file, or it goes on to write every result. A source that is rejected stops it, and
so does a document whose transformation breaks down, when no file has been touched. If it gets past
them, the sources, documents, results and files belong together one by one and in order.
-/
namespace PageDirectives

/-- The state and the files in which a stage ends. -/
structure StageOutcome.Ends (outcome : StageOutcome) (state : Except Halt SiteState)
    (files : Files) : Prop where
  state_eq : outcome.state = state
  files_eq : outcome.files = files

namespace Stage

section Steps

variable {equipment : Equipment} {stage : Stage} {rest : List Stage} {files after : Files}
  {state next : SiteState}

theorem runAll_cons_ends {last : Except Halt SiteState} {final : Files}
    (first : (stage equipment files state).Ends (.ok next) after)
    (others : (runAll equipment rest after next).Ends last final) :
    (runAll equipment (stage :: rest) files state).Ends last final := by
  rw [runAll, first.state_eq, first.files_eq]
  exact ⟨others.state_eq, others.files_eq⟩

theorem runAll_cons_stops {halt : Halt}
    (first : (stage equipment files state).Ends (.error halt) after) :
    (runAll equipment (stage :: rest) files state).Ends (.error halt) after := by
  rw [runAll, first.state_eq]
  exact first

end Steps

variable (equipment : Equipment) (choices : Choices) (input output : Path) (files : Files)

/-- The sources that a run finds. -/
def matched : List Path :=
  match Glob.ofText (Text.orElse (some choices.pattern) equipment.settings.inputPattern) with
  | .ok glob => glob.filesIn files input
  | .error _ => []

/-- The service that a run asks for completions, with its limits. -/
def resolverOf : Resolver :=
  let service := if choices.withoutCompletions then Service.disabled
    else Service.ofSettings equipment.settings equipment.transport
  Resolver.make service .null none equipment.settings

/-- There are sources, and a directory for what becomes of them. -/
structure Ready (prepared : Files) : Prop where
  directory : files.isDirectory input = true
  found : matched equipment choices input files ≠ []
  created : files.createDirectory output = (.ok (), prepared)

def started : SiteState := { choices, input := some input, output := some output }

/-- The state once the sources are found. -/
def checked : SiteState :=
  { started choices input output with
    sources := matched equipment choices input files, checked := true }

/-- The state once the sources are read. -/
def hasRead (documents : List Document) : SiteState :=
  { checked equipment choices input output files with documents := some documents }

/-- The state once the documents are transformed. -/
def transformed (documents : List Document) (results : List Result) : SiteState :=
  { hasRead equipment choices input output files documents with results := some results }

variable {equipment choices input output files}

theorem check_ends {prepared : Files} (h : Ready equipment choices input output files prepared) :
    (check equipment files (started choices input output)).Ends
      (.ok (checked equipment choices input output files)) prepared := by
  have found := h.found
  rw [checked]
  rw [matched] at found ⊢
  cases pattern : Glob.ofText (Text.orElse (some choices.pattern) equipment.settings.inputPattern)
    with
  | error e =>
    rw [pattern] at found
    exact absurd rfl found
  | ok glob =>
    rw [pattern] at found
    cases sources : glob.filesIn files input with
    | nil => exact absurd sources found
    | cons source rest =>
      have present : (!files.isDirectory input) = false := by rw [h.directory]; rfl
      simp only [check, started, present, pattern, sources, h.created]
      exact ⟨rfl, rfl⟩

theorem check_stops (h : ∀ prepared, ¬ Ready equipment choices input output files prepared) :
    ∃ halt after, (check equipment files (started choices input output)).Ends (.error halt) after ∧
      files.Enlarges after := by
  cases present : files.isDirectory input with
  | false =>
    simp only [check, started, present]
    exact ⟨_, files, ⟨rfl, rfl⟩, .refl files⟩
  | true =>
    cases pattern : Glob.ofText (Text.orElse (some choices.pattern) equipment.settings.inputPattern)
      with
    | error e =>
      simp only [check, started, present, pattern]
      exact ⟨_, files, ⟨rfl, rfl⟩, .refl files⟩
    | ok glob =>
      cases sources : glob.filesIn files input with
      | nil =>
        simp only [check, started, present, pattern, sources]
        exact ⟨_, files, ⟨rfl, rfl⟩, .refl files⟩
      | cons source rest =>
        have enlarges := files.enlarges_createDirectory output
        rcases created : files.createDirectory output with ⟨outcome, prepared⟩
        rw [created] at enlarges
        cases outcome with
        | error e =>
          simp only [check, started, present, pattern, sources, created]
          exact ⟨_, prepared, ⟨rfl, rfl⟩, enlarges⟩
        | ok _ =>
          refine absurd ⟨present, ?_, created⟩ (h prepared)
          rw [matched, pattern]
          change glob.filesIn files input ≠ []
          rw [sources]
          exact List.cons_ne_nil source rest

section Each

variable (equipment files) (state : SiteState) {documents : List Document} {results : List Result}
  {last : Files}

theorem read_ends (from' : state.input = some input)
    (all : Document.AreOf files input state.sources documents) :
    (read equipment files state).Ends (.ok { state with documents := some documents }) files := by
  have ok := readSources_eq_ok_iff.2 all
  simp only [read, from', Option.getD_some, ok]
  exact ⟨rfl, rfl⟩

theorem read_cases (from' : state.input = some input) :
    (∃ documents, Document.AreOf files input state.sources documents) ∨
      ∃ halt, (read equipment files state).Ends (.error halt) files := by
  cases outcome : (readSources files input state.sources).1 with
  | ok documents => exact .inl ⟨documents, readSources_eq_ok_iff.1 outcome⟩
  | error halt =>
    simp only [read, from', Option.getD_some, outcome]
    exact .inr ⟨halt, rfl, rfl⟩

theorem transform_ends {engine : Engine} {now : Dialogue}
    (hold : state.documents = some documents)
    (made : Engine.withCatalogue equipment.highlighters state.choices.policy
      state.choices.delimiter equipment.settings = .ok engine)
    (turns : InTurn engine (resolverOf equipment state.choices) equipment.settings.escapeCodeBlocks
      {} documents results now) :
    (transform equipment files state).Ends (.ok { state with results := some results }) files := by
  have ok := transformAll_of_inTurn turns
  rw [resolverOf] at ok
  simp only [transform, hold, made, ok]
  exact ⟨rfl, rfl⟩

theorem transform_cases (hold : state.documents = some documents) :
    (∃ engine results now,
        Engine.withCatalogue equipment.highlighters state.choices.policy
            state.choices.delimiter equipment.settings = .ok engine ∧
          InTurn engine (resolverOf equipment state.choices) equipment.settings.escapeCodeBlocks {}
            documents results now) ∨
      ∃ halt, (transform equipment files state).Ends (.error halt) files := by
  cases made : Engine.withCatalogue equipment.highlighters state.choices.policy
    state.choices.delimiter equipment.settings with
  | error e =>
    simp only [transform, hold, made]
    exact .inr ⟨_, rfl, rfl⟩
  | ok engine =>
    rcases transformAll_cases engine (resolverOf equipment state.choices)
      equipment.settings.escapeCodeBlocks {} documents with
      ⟨results, now, turns⟩ | ⟨⟨halt, broken⟩, -⟩
    · exact .inl ⟨engine, results, now, rfl, turns⟩
    · rw [resolverOf] at broken
      simp only [transform, hold, made, broken]
      exact .inr ⟨halt, rfl, rfl⟩

/-- What a run says about results that it has written. -/
def summaryOf (output : Path) (results : List Result) : Summary :=
  ⟨results.map fun r => (r.target output).write, (results.length : Nat), leftoversOf results⟩

theorem write_ends (hold : state.results = some results) (below : state.output = some output)
    (wrote : Written output files results last) :
    (write equipment files state).Ends
      (.ok { state with summary := some (summaryOf output results) }) last := by
  obtain ⟨journal, all⟩ := writeAll_of_written wrote
  cases results with
  | nil =>
    cases wrote
    simp only [write, hold]
    exact ⟨rfl, rfl⟩
  | cons r rest =>
    simp only [write, hold, below, all]
    refine ⟨?_, rfl⟩
    rw [summaryOf, List.map_map, List.length_map]
    rfl

theorem write_stops (hold : state.results = some results) (below : state.output = some output)
    (never : ∀ last, ¬ Written output files results last) :
    ∃ halt after, (write equipment files state).Ends (.error halt) after := by
  cases results with
  | nil => exact absurd (.nil files) (never files)
  | cons r rest =>
    cases outcome : (writeAll output files (r :: rest)).1 with
    | ok targets => exact absurd (written_of_writeAll outcome) (never _)
    | error halt =>
      simp only [write, hold, below, outcome]
      exact ⟨halt, _, rfl, rfl⟩

theorem report_ends {summary : Summary} (hold : state.summary = some summary) :
    (report equipment files state).Ends (.ok state) files := by
  simp only [report, hold]
  exact ⟨rfl, rfl⟩

end Each

theorem of_mem_matched {path : Path} (h : path ∈ matched equipment choices input files) :
    files.isFile path = true ∧ ∃ names, path = input.below names := by
  rw [matched] at h
  split at h
  · exact Glob.of_mem_filesIn h
  · exact absurd h List.not_mem_nil

theorem nodup_matched : (matched equipment choices input files).Nodup := by
  rw [matched]
  split
  · exact Glob.nodup_filesIn ..
  · exact List.nodup_nil

theorem Ready.enlarges {prepared : Files}
    (h : Ready equipment choices input output files prepared) : files.Enlarges prepared := by
  have enlarges := files.enlarges_createDirectory output
  rwa [h.created] at enlarges

/-- Creating the output directory changes nothing about the sources. -/
theorem Ready.read_eq {prepared : Files}
    (h : Ready equipment choices input output files prepared) {path : Path}
    (mem : path ∈ matched equipment choices input files) : prepared.read path = files.read path :=
  h.enlarges.read (of_mem_matched mem).1

theorem Ready.areOf_iff {prepared : Files} {documents : List Document}
    (h : Ready equipment choices input output files prepared) :
    Document.AreOf prepared input (matched equipment choices input files) documents ↔
      Document.AreOf files input (matched equipment choices input files) documents :=
  ⟨fun all => all.congr fun _ mem => (h.read_eq mem).symm,
    fun all => all.congr fun _ mem => h.read_eq mem⟩

end Stage

open Stage

variable (equipment : Equipment) (choices : Choices) (input output : Path) (files : Files)

/-- A run comes to results: every source it finds has a document, and every document a result. -/
structure ComesTo (documents : List Document) (results : List Result) (prepared : Files) :
    Prop where
  ready : Ready equipment choices input output files prepared
  areOf : Document.AreOf files input (matched equipment choices input files) documents
  inTurn : ∃ engine now,
    Engine.withCatalogue equipment.highlighters choices.policy choices.delimiter
        equipment.settings = .ok engine ∧
      InTurn engine (resolverOf equipment choices) equipment.settings.escapeCodeBlocks {}
        documents results now

variable {equipment choices input output files}

theorem ComesTo.runSite_ends_of {documents : List Document} {results : List Result}
    {prepared after : Files} {last : Except Halt SiteState}
    (h : ComesTo equipment choices input output files documents results prepared)
    (others : (runAll equipment [write, report] prepared
      (transformed equipment choices input output files documents results)).Ends last after) :
    (runSite equipment choices input output files).Ends last after := by
  obtain ⟨engine, now, made, turns⟩ := h.inTurn
  refine runAll_cons_ends (check_ends h.ready) ?_
  refine runAll_cons_ends (read_ends equipment _ _ rfl (h.ready.areOf_iff.2 h.areOf)) ?_
  exact runAll_cons_ends (transform_ends equipment _ _ rfl made turns) others

/-- A run comes to results, or it stops and has changed no file. -/
theorem runSite_cases (equipment : Equipment) (choices : Choices) (input output : Path)
    (files : Files) :
    (∃ documents results prepared,
        ComesTo equipment choices input output files documents results prepared) ∨
      ∃ halt after, (runSite equipment choices input output files).Ends (.error halt) after ∧
        files.Enlarges after := by
  by_cases ready : ∃ prepared, Ready equipment choices input output files prepared
  · obtain ⟨prepared, ready⟩ := ready
    -- from here on the output directory is there, also if a later stage stops
    have enlarges := ready.enlarges
    have begun := check_ends ready
    rcases read_cases equipment prepared (checked equipment choices input output files) rfl with
      ⟨documents, all⟩ | ⟨halt, stops⟩
    · have reads := read_ends equipment prepared _ rfl all
      rcases transform_cases equipment prepared
        (hasRead equipment choices input output files documents) rfl with
        ⟨engine, results, now, made, turns⟩ | ⟨halt, stops⟩
      · exact .inl ⟨documents, results, prepared, ready, ready.areOf_iff.1 all, engine, now, made,
          turns⟩
      · exact .inr ⟨halt, prepared, runAll_cons_ends begun
          (runAll_cons_ends reads (runAll_cons_stops stops)), enlarges⟩
    · exact .inr ⟨halt, prepared, runAll_cons_ends begun (runAll_cons_stops stops), enlarges⟩
  · obtain ⟨halt, after, stops, enlarges⟩ := check_stops (not_exists.1 ready)
    exact .inr ⟨halt, after, runAll_cons_stops stops, enlarges⟩

/-- Below the output directory a result has neither a way back up nor a link on its way. -/
def Result.GoesStraight (output : Path) (files : Files) (r : Result) : Prop :=
  ∀ base, files.place? output = some base → files.Straight base r.document.place.names

section Results

variable {documents : List Document} {results : List Result} {prepared last : Files}
  (h : ComesTo equipment choices input output files documents results prepared)

include h

theorem ComesTo.not_rejects {path : Path} (mem : path ∈ matched equipment choices input files) :
    ¬ files.Rejects path :=
  not_rejects_of_documents h.areOf mem

theorem ComesTo.not_breaksDown {engine : Engine} {others : List Document}
    (made : Engine.withCatalogue equipment.highlighters choices.policy choices.delimiter
      equipment.settings = .ok engine)
    (areOf : Document.AreOf files input (matched equipment choices input files) others) :
    ¬ BreaksDown engine (resolverOf equipment choices) equipment.settings.escapeCodeBlocks {}
      others := by
  intro broken
  obtain ⟨engine', now, made', turns⟩ := h.inTurn
  -- the engine and the documents are those of the run
  obtain rfl := Except.ok.inj (made.symm.trans made')
  have read := readSources_eq_ok_iff.2 areOf
  obtain rfl := Except.ok.inj (read.symm.trans (readSources_eq_ok_iff.2 h.areOf))
  obtain ⟨halt, stopped⟩ := transformAll_of_breaksDown broken
  exact nomatch stopped.symm.trans (transformAll_of_inTurn turns)

theorem ComesTo.runSite_ends (wrote : Written output prepared results last) :
    (runSite equipment choices input output files).Ends
      (.ok { transformed equipment choices input output files documents results with
        summary := some (summaryOf output results) }) last := by
  refine h.runSite_ends_of (runAll_cons_ends (write_ends equipment prepared _ rfl rfl wrote) ?_)
  exact runAll_cons_ends (report_ends equipment last _ rfl) ⟨rfl, rfl⟩

theorem ComesTo.runSite_fails (never : ∀ last, ¬ Written output prepared results last) :
    ∃ halt after, (runSite equipment choices input output files).Ends (.error halt) after := by
  obtain ⟨halt, after, stops⟩ := write_stops equipment prepared
    (transformed equipment choices input output files documents results) rfl rfl never
  exact ⟨halt, after, h.runSite_ends_of (runAll_cons_stops stops)⟩

theorem ComesTo.areResultsOf :
    List.Forall₂ (fun path r => r.document.IsOf files input path)
      (matched equipment choices input files) results := by
  obtain ⟨engine, now, -, turns⟩ := h.inTurn
  have areOf := h.areOf
  rw [← turns.documents_eq] at areOf
  exact List.forall₂_map_right_iff.1 areOf

theorem ComesTo.nodup_places : (results.map (·.document.place.names)).Nodup := by
  -- every source lies below the input directory, so its place determines it
  have below : ∀ path ∈ matched equipment choices input files,
      path = input.below (path.names.drop input.names.length) := by
    intro path mem
    obtain ⟨names, rfl⟩ := (of_mem_matched mem).2
    rw [Path.drop_below]
  rw [places_eq h.areResultsOf]
  refine nodup_matched.map_on fun path mem path' mem' same => ?_
  rw [below path mem, below path' mem', same]

/-- Results to which straight ways lead are written to files of their own. -/
theorem ComesTo.eq_of_place? (straight : ∀ r ∈ results, r.GoesStraight output last)
    {r s : Result} (hr : r ∈ results) (hs : s ∈ results) {place : Place}
    (leads : last.place? (r.target output) = some place)
    (leads' : last.place? (s.target output) = some place) : r = s := by
  obtain ⟨base, found, way⟩ := Files.exists_place_of_below leads
  obtain ⟨base', found', way'⟩ := Files.exists_place_of_below leads'
  obtain rfl := Option.some.inj (found.symm.trans found')
  have same := (way (straight r hr base found)).symm.trans (way' (straight s hs base found))
  exact List.inj_on_of_nodup_map h.nodup_places hr hs (List.append_cancel_left same)

end Results

/-- The names that lines of a result still show, in the order of their first lines. -/
def Result.namesShown (r : Result) : List Text :=
  (((Text.lines r.text).filterMap Directive.shownName?).filter (!Directive.isReserved ·)).eraseDups

theorem ComesTo.leftoversOf_eq {documents : List Document} {results : List Result}
    {prepared : Files}
    (h : ComesTo equipment choices input output files documents results prepared) :
    leftoversOf results = (results.filter fun r => r.namesShown ≠ []).map fun r =>
      (r.document.place.write, r.namesShown) := by
  obtain ⟨engine, now, -, turns⟩ := h.inTurn
  have names : ∀ r ∈ results, r.leftovers = r.namesShown := fun r mem =>
    (turns.leftovers_eq r mem).trans (Directive.leftovers_eq r.text)
  have shown : (results.filter fun r => !r.leftovers.isEmpty) =
      results.filter fun r => r.namesShown ≠ [] := by
    refine List.filter_congr fun r mem => ?_
    rw [names r mem]
    cases r.namesShown <;> rfl
  rw [leftoversOf, shown]
  exact List.map_congr_left fun r mem => by rw [names r (List.mem_of_mem_filter mem)]

/-- Each result is in the file that its path leads to. -/
def EachInItsFile (output : Path) (results : List Result) (files : Files) : Prop :=
  ∀ r ∈ results, ∃ place, files.place? (r.target output) = some place ∧
    files.contentAt? place = some (.ok r.written)

/-- What a run leaves that has written its results, one for each source and in their order. -/
structure LeavesAll (files : Files) (input output : Path) (sources : List Path)
    (results : List Result) (outcome : StageOutcome) : Prop where
  areResultsOf : List.Forall₂ (fun path r => r.document.IsOf files input path) sources results
  summary : ∃ state, outcome.state = .ok state ∧ state.summary = some
    { files := results.map fun r => (r.target output).write
      written := results.length
      leftovers := (results.filter fun r => r.namesShown ≠ []).map fun r =>
        (r.document.place.write, r.namesShown) }
  keeps : files.Keeps outcome.files
  contents : ∀ place, outcome.files.contentAt? place =
    ((lastAt? output outcome.files place results).map fun r => .ok r.written).or
      (files.contentAt? place)
  apart : (∀ r ∈ results, r.GoesStraight output outcome.files) →
    EachInItsFile output results outcome.files ∧ results.Pairwise fun r s =>
      outcome.files.place? (r.target output) ≠ outcome.files.place? (s.target output)

theorem ComesTo.leavesAll {documents : List Document} {results : List Result}
    {prepared last : Files}
    (h : ComesTo equipment choices input output files documents results prepared)
    (wrote : Written output prepared results last) :
    LeavesAll files input output (matched equipment choices input files) results
      (runSite equipment choices input output files) := by
  obtain ⟨state, final⟩ := h.runSite_ends wrote
  have enlarges := h.ready.enlarges
  have placed := exists_place_of_written wrote
  have contents : ∀ place, last.contentAt? place =
      ((lastAt? output last place results).map fun r => .ok r.written).or
        (files.contentAt? place) := by
    intro place
    rw [contentAt?_of_written wrote, enlarges.contents]
  rw [← final] at placed contents
  refine ⟨h.areResultsOf, ⟨_, state, ?_⟩, ?_, contents, fun straight => ⟨?_, ?_⟩⟩
  · rw [summaryOf, h.leftoversOf_eq]
  · exact final ▸ enlarges.toKeeps.trans (keeps_of_written wrote)
  · intro r mem
    obtain ⟨place, leads⟩ := placed r mem
    refine ⟨place, leads, ?_⟩
    rw [contents, lastAt?_eq_some mem leads fun s hs leads' =>
      (h.eq_of_place? straight mem hs leads leads').symm]
    rfl
  · have names := List.pairwise_map.1 (List.nodup_iff_pairwise_ne.1 h.nodup_places)
    refine names.imp_of_mem fun {r s} hr hs ne same => ne ?_
    obtain ⟨place, leads⟩ := placed r hr
    rw [h.eq_of_place? straight hr hs leads (same ▸ leads)]

/-- A run does all or nothing. If a source is rejected, the policy is unknown or a document breaks
down, it stops and no file has been changed or created. Otherwise it stops with no file changed for
want of sources or of a directory, or it comes to results. Then it succeeds exactly if they can be
written, and leaves each of them in its file, the last where paths lead to the same. -/
theorem runSite_allOrNothing (equipment : Equipment) (choices : Choices) (input output : Path)
    (files : Files) :
    let sources := matched equipment choices input files
    let made := Engine.withCatalogue equipment.highlighters choices.policy choices.delimiter
      equipment.settings
    let run := runSite equipment choices input output files
    let nothing := (∃ halt, run.state = .error halt) ∧
      ∀ place, run.files.contentAt? place = files.contentAt? place
    ((∃ path ∈ sources, files.Rejects path) → nothing) ∧
      ((∃ e, made = .error e) → nothing) ∧
      (∀ engine documents, made = .ok engine → Document.AreOf files input sources documents →
        BreaksDown engine (resolverOf equipment choices) equipment.settings.escapeCodeBlocks {}
          documents → nothing) ∧
      (nothing ∨ ∃ documents results prepared,
        ComesTo equipment choices input output files documents results prepared) ∧
      ∀ documents results prepared,
        ComesTo equipment choices input output files documents results prepared →
          ((∃ state, run.state = .ok state) ↔ ∃ last, Written output prepared results last) ∧
          ∀ last, Written output prepared results last →
            run.files = last ∧ LeavesAll files input output sources results run := by
  intro sources made run nothing
  have cases' : nothing ∨ ∃ documents results prepared,
      ComesTo equipment choices input output files documents results prepared := by
    rcases runSite_cases equipment choices input output files with
      comes | ⟨halt, after, ends, enlarges⟩
    · exact .inr comes
    · refine .inl ⟨⟨halt, ends.state_eq⟩, fun place => ?_⟩
      rw [ends.files_eq, enlarges.contents]
  refine ⟨fun ⟨path, mem, rejects⟩ => ?_, fun ⟨e, unknown⟩ => ?_,
    fun engine documents known areOf broken => ?_, cases', fun documents results prepared h => ?_⟩
  · exact cases'.resolve_right fun ⟨_, _, _, h⟩ => h.not_rejects mem rejects
  · refine cases'.resolve_right fun ⟨_, _, _, h⟩ => ?_
    obtain ⟨engine, now, known, -⟩ := h.inTurn
    exact nomatch unknown.symm.trans known
  · exact cases'.resolve_right fun ⟨_, _, _, h⟩ => h.not_breaksDown known areOf broken
  · refine ⟨⟨fun ⟨state, ok⟩ => ?_, fun ⟨last, wrote⟩ => ⟨_, (h.runSite_ends wrote).state_eq⟩⟩,
      fun last wrote => ⟨(h.runSite_ends wrote).files_eq, h.leavesAll wrote⟩⟩
    by_contra never
    obtain ⟨halt, after, ends⟩ := h.runSite_fails (not_exists.1 never)
    exact nomatch ok.symm.trans ends.state_eq

/-- A document without directives is what its cleanup leaves. -/
theorem Document.transformed_of_quiet {engine : Engine} (wf : engine.registry.WellFormed)
    (resolver : Resolver) (past : Dialogue) {d : Document} {languages : List Text} {text : Text}
    (cleaned : (Cleanup.run d.source.body d.source.fields .null languages).text = .ok text)
    (unasked : Prompted.all text = []) (quiet : Directive.Quiet text) :
    (d.transformed engine resolver languages past).text = .ok text ∧
      (d.transformed engine resolver languages past).dialogue = past := by
  have resolved : resolver.resolve past text = ⟨.ok text, past, []⟩ := by
    rw [Resolver.resolve, unasked]
  have free : ∀ r ∈ engine.registry.sorted, '\n' ∉ r.name := fun r hr =>
    wf.newline_notMem (Registry.mem_sorted.1 hr)
  have processed (page : Entries) : engine.process page text = ⟨{}, .ok text⟩ :=
    Engine.process_of_quiet (Engine.runAll_of_quiet free quiet) quiet
  simp only [Document.transformed, transform, if_true, cleaned, transformText, resolved, processed,
    and_true]
  rfl

theorem Stage.InTurn.cons_of_quiet {engine : Engine} (wf : engine.registry.WellFormed)
    {resolver : Resolver} {past last : Dialogue} {d : Document} {languages : List Text}
    {text : Text} {rest : List Document} {others : List Result}
    (cleaned : (Cleanup.run d.source.body d.source.fields .null languages).text = .ok text)
    (unasked : Prompted.all text = []) (quiet : Directive.Quiet text)
    (turns : InTurn engine resolver languages past rest others last) :
    InTurn engine resolver languages past (d :: rest) (⟨d, text, []⟩ :: others) last := by
  obtain ⟨ok, still⟩ := d.transformed_of_quiet wf resolver past cleaned unasked quiet
  rw [← Directive.leftovers_of_quiet quiet]
  exact .cons ok (by rwa [still])

/-- Two ways up and down from different directories lead to one file, which holds what was written
to it last. -/
theorem not_eachInItsFile :
    let files : Files := ⟨["site"], [(["site", "in", "a"], .directory),
      (["site", "in", "x.md"], .file (.ok "one\n")),
      (["site", "out", "x.md"], .file (.ok "old\n"))]⟩
    let equipment : Equipment := ⟨{}, fun _ => .malformed, Highlighter.ofStyle⟩
    let choices : Choices := { pattern := "**/../**/x.md" }
    let input : Path := ⟨false, ["in"]⟩
    let output : Path := ⟨false, ["out"]⟩
    let run := runSite equipment choices input output files
    (∃ state, run.state = .ok state) ∧
      ∃ documents results prepared,
        ComesTo equipment choices input output files documents results prepared ∧
          Written output prepared results run.files ∧ ¬ EachInItsFile output results run.files := by
  intro files equipment choices input output run
  let up : Path := ⟨false, ["..", "in", "x.md"]⟩
  let aside : Path := ⟨false, ["..", "out", "x.md"]⟩
  let back : Path := ⟨false, ["a", "..", "x.md"]⟩
  let document (place : Path) (text : Text) : Document :=
    ⟨input.below place.names, place, ⟨[], [], text⟩⟩
  let result (place : Path) (text : Text) : Result := ⟨document place text, text, []⟩
  let documents := [document up "one\n", document aside "old\n", document back "one\n"]
  let results := [result up "one\n", result aside "old\n", result back "one\n"]
  let there (names : List Text) : Place := "site".toList :: names
  let last : Files := ⟨["site"], [(there ["out", "x.md"], .file (.ok "one\n")),
      (there ["out", "a"], .directory), (there ["out", "x.md"], .file (.ok "old\n")),
      (there ["in", "x.md"], .file (.ok "one\n"))] ++ files.entries⟩
  -- the last path makes a directory `a` on its way to the file that the second one leads to
  have wrote : Written output files results last :=
    .cons rfl rfl (.cons rfl rfl (.cons rfl rfl (.nil last)))
  let glob : Glob := ⟨[.deep, .literal "..", .deep, .literal "x.md"], false⟩
  have pattern : Glob.ofText (Text.orElse (some choices.pattern) equipment.settings.inputPattern) =
      .ok glob := by decide +kernel
  have selected : (glob.select files input).filter files.isFile = documents.map (·.path) := by
    decide +kernel
  have found : matched equipment choices input files = documents.map (·.path) := by
    rw [matched, pattern]
    change glob.filesIn files input = _
    rw [Glob.filesIn, selected]
    exact List.mergeSort_of_pairwise (by decide)
  let engine : Engine := ⟨Layout.register Listing.monokai "---" {}, .warn, "---"⟩
  have wf : engine.registry.WellFormed := Layout.wellFormed_register Listing.monokai "---" 100
  have turn {place : Path} {text : Text} {rest : List Document} {others : List Result}
      (cleaned : (Cleanup.run text [] .null []).text.toOption = some text)
      (unasked : (Prompted.all text).length = 0) (quiet : Directive.Quiet text)
      (turns : InTurn engine (resolverOf equipment choices) [] {} rest others {}) :
      InTurn engine (resolverOf equipment choices) [] {} (document place text :: rest)
        (result place text :: others) {} :=
    turns.cons_of_quiet wf (Engine.eq_ok_of_toOption cleaned)
      (List.eq_nil_of_length_eq_zero unasked) quiet
  have comes : ComesTo equipment choices input output files documents results files := by
    refine ⟨⟨rfl, ?_, rfl⟩, ?_, engine, {}, rfl, ?_⟩
    · rw [found]
      exact List.cons_ne_nil _ _
    · rw [found]
      exact .cons ⟨_, _, rfl, rfl, rfl⟩ (.cons ⟨_, _, rfl, rfl, rfl⟩
        (.cons ⟨_, _, rfl, rfl, rfl⟩ .nil))
    · exact turn (by decide +kernel) (by decide +kernel) (by decide)
        (turn (by decide +kernel) (by decide +kernel) (by decide)
          (turn (by decide +kernel) (by decide +kernel) (by decide) (.nil {})))
  have ends := comes.runSite_ends wrote
  refine ⟨⟨_, ends.state_eq⟩, documents, results, files, comes, ends.files_eq ▸ wrote, ?_⟩
  rw [ends.files_eq]
  intro each
  obtain ⟨place, leads, held⟩ := each (result aside "old\n") (by simp [results])
  obtain rfl : there ["out", "x.md"] = place := Option.some.inj leads
  exact absurd held (by decide)

end PageDirectives
