import Mathlib.Data.List.Forall2
import PageDirectives.Proofs.Site.Files
import PageDirectives.Proofs.Site.Glob
import PageDirectives.Site.Stage
/-!
What the stages of a run do to a list of sources, one by one and in order. Reading pairs each source
with its document. The transformation pairs each document with its result, in the light of what was
asked for those before it. Writing leaves in each file what was written to it last.
-/
namespace PageDirectives

/-- A document is what a source says, and stands where the source does below the input directory. -/
def Document.IsOf (files : Files) (input path : Path) (d : Document) : Prop :=
  ∃ text source, files.read path = .ok text ∧ Source.ofText text = .ok source ∧
    d = ⟨path, ⟨false, path.names.drop input.names.length⟩, source⟩

/-- Documents of sources, one for each and in their order. -/
abbrev Document.AreOf (files : Files) (input : Path) : List Path → List Document → Prop :=
  List.Forall₂ fun path d => d.IsOf files input path

/-- A source cannot be read, or its header cannot. -/
def Files.Rejects (files : Files) (path : Path) : Prop :=
  (∃ e, files.read path = .error e) ∨
    ∃ text e, files.read path = .ok text ∧ Source.ofText text = .error e

section Source

variable {files : Files} {input path : Path} {d d' : Document}

theorem Document.IsOf.unique (h : d.IsOf files input path) (h' : d'.IsOf files input path) :
    d = d' := by
  obtain ⟨text, source, read, taken, rfl⟩ := h
  obtain ⟨text', source', read', taken', rfl⟩ := h'
  obtain rfl := Except.ok.inj (read.symm.trans read')
  obtain rfl := Except.ok.inj (taken.symm.trans taken')
  rfl

theorem Document.IsOf.not_rejects (h : d.IsOf files input path) : ¬ files.Rejects path := by
  obtain ⟨text, source, read, taken, -⟩ := h
  rintro (⟨e, failed⟩ | ⟨text', e, read', failed⟩)
  · exact nomatch read.symm.trans failed
  · obtain rfl := Except.ok.inj (read.symm.trans read')
    exact nomatch taken.symm.trans failed

theorem Document.AreOf.congr {other : Files} {paths : List Path} {documents : List Document}
    (all : AreOf files input paths documents)
    (same : ∀ path ∈ paths, other.read path = files.read path) :
    AreOf other input paths documents := by
  refine ((List.forall₂_and_left _ _).2 ⟨same, all⟩).imp fun path d both => ?_
  rw [IsOf, both.1]
  exact both.2

end Source

def Result.target (output : Path) (r : Result) : Path := output.below r.document.place.names

def Result.written (r : Result) : Text := Headed.join r.document.source.raw r.text

/-- What the transformation makes of a document after what was asked before. -/
def Document.transformed (engine : Engine) (resolver : Resolver) (languages : List Text)
    (past : Dialogue) (d : Document) : Transformed :=
  transform engine resolver past d.source.fields d.source.body true languages

namespace Stage

section Reading

variable {files : Files} {input path : Path} {paths : List Path} {documents : List Document}

theorem readSource_cases (files : Files) (input path : Path) :
    (∃ d line, readSource files input path = .ok (d, line) ∧ d.IsOf files input path) ∨
      (∃ halt, readSource files input path = .error halt) ∧ files.Rejects path := by
  cases read : files.read path with
  | error e =>
    refine .inr ⟨?_, .inl ⟨e, read⟩⟩
    simp only [readSource, read]
    exact ⟨_, rfl⟩
  | ok text =>
    cases taken : Source.ofText text with
    | ok source =>
      have line : ∃ line, readSource files input path =
          .ok (⟨path, ⟨false, path.names.drop input.names.length⟩, source⟩, line) := by
        simp only [readSource, read, bind, Except.bind, taken]
        exact ⟨_, rfl⟩
      obtain ⟨line, ok⟩ := line
      exact .inl ⟨_, line, ok, text, source, read, taken, rfl⟩
    | error e =>
      refine .inr ⟨?_, .inr ⟨text, e, read, taken⟩⟩
      simp only [readSource, read, bind, Except.bind, taken]
      cases e with
      | notAMapping kind => exact ⟨_, rfl⟩
      | yaml e => cases e <;> exact ⟨_, rfl⟩

/-- Reading goes through exactly if every source has a document, and these are read in order. -/
theorem readSources_eq_ok_iff :
    (readSources files input paths).1 = .ok documents ↔
      Document.AreOf files input paths documents := by
  induction paths generalizing documents with
  | nil => simp [readSources, eq_comm]
  | cons path rest ih =>
    rcases readSource_cases files input path with ⟨d, line, read, isOf⟩ | ⟨⟨halt, read⟩, rejects⟩
    · rw [readSources, read]
      constructor
      · intro ok
        cases others : (readSources files input rest).1 with
        | error halt =>
          simp only [others] at ok
          exact nomatch ok
        | ok more =>
          simp only [others] at ok
          obtain rfl := Except.ok.inj ok
          exact .cons isOf (ih.1 others)
      · intro all
        cases all with
        | cons first others =>
          simp only [ih.2 others, isOf.unique first]
          rfl
    · rw [readSources, read]
      constructor
      · exact fun ok => nomatch ok
      · intro all
        cases all with
        | cons first _ => exact absurd rejects first.not_rejects

theorem not_rejects_of_documents (all : Document.AreOf files input paths documents)
    (mem : path ∈ paths) : ¬ files.Rejects path := by
  induction all with
  | nil => exact absurd mem List.not_mem_nil
  | cons first _ ih =>
    rcases List.mem_cons.1 mem with rfl | mem
    · exact first.not_rejects
    · exact ih mem

theorem places_eq {results : List Result}
    (all : List.Forall₂ (fun path r => Document.IsOf files input path r.document) paths results) :
    results.map (·.document.place.names) =
      paths.map fun path => path.names.drop input.names.length := by
  induction all with
  | nil => rfl
  | cons first _ ih =>
    obtain ⟨text, source, -, -, same⟩ := first
    rw [List.map_cons, List.map_cons, ih, same]

end Reading

section Transforming

variable (engine : Engine) (resolver : Resolver) (languages : List Text)

/-- Documents with their results, each transformed after what was asked for those before it. -/
inductive InTurn : Dialogue → List Document → List Result → Dialogue → Prop
  | nil (past : Dialogue) : InTurn past [] [] past
  | cons {past last : Dialogue} {d : Document} {text : Text} {rest : List Document}
      {results : List Result} :
      (d.transformed engine resolver languages past).text = .ok text →
      InTurn (d.transformed engine resolver languages past).dialogue rest results last →
      InTurn past (d :: rest) (⟨d, text, Directive.leftovers text⟩ :: results) last

/-- The transformation of one of the documents breaks down, after those before it. -/
def BreaksDown (past : Dialogue) (documents : List Document) : Prop :=
  ∃ before d after results now e, documents = before ++ d :: after ∧
    InTurn engine resolver languages past before results now ∧
    (d.transformed engine resolver languages now).text = .error e

variable {engine resolver languages} {past last : Dialogue} {documents : List Document}
  {results : List Result}

theorem transformAll_cons_of_ok {d : Document} {text : Text} (rest : List Document)
    (ok : (d.transformed engine resolver languages past).text = .ok text) :
    (transformAll engine resolver languages past (d :: rest)).1 =
      (transformAll engine resolver languages
        (d.transformed engine resolver languages past).dialogue rest).1.map
          (⟨d, text, Directive.leftovers text⟩ :: ·) := by
  rw [transformAll]
  rw [Document.transformed] at ok ⊢
  simp only [ok]

theorem transformAll_cons_of_error {d : Document} {e : TransformError} (rest : List Document)
    (broken : (d.transformed engine resolver languages past).text = .error e) :
    (transformAll engine resolver languages past (d :: rest)).1 =
      .error (.broken (.transform e)) := by
  rw [transformAll]
  rw [Document.transformed] at broken
  simp only [broken]

theorem transformAll_of_inTurn (h : InTurn engine resolver languages past documents results last) :
    (transformAll engine resolver languages past documents).1 = .ok results := by
  induction h with
  | nil past => rfl
  | cons ok _ ih =>
    rw [transformAll_cons_of_ok _ ok, ih]
    rfl

theorem InTurn.documents_eq (h : InTurn engine resolver languages past documents results last) :
    results.map (·.document) = documents := by
  induction h with
  | nil past => rfl
  | cons _ _ ih => rw [List.map_cons, ih]

theorem InTurn.leftovers_eq (h : InTurn engine resolver languages past documents results last) :
    ∀ r ∈ results, r.leftovers = Directive.leftovers r.text := by
  induction h with
  | nil past => exact fun r mem => absurd mem List.not_mem_nil
  | cons _ _ ih => exact List.forall_mem_cons.2 ⟨rfl, ih⟩

theorem transformAll_of_breaksDown (h : BreaksDown engine resolver languages past documents) :
    ∃ halt, (transformAll engine resolver languages past documents).1 = .error halt := by
  obtain ⟨before, d, after, results, now, e, rfl, turns, error⟩ := h
  induction turns with
  | nil past => exact ⟨_, transformAll_cons_of_error after error⟩
  | cons ok _ ih =>
    obtain ⟨halt, stopped⟩ := ih error
    rw [List.cons_append, transformAll_cons_of_ok _ ok, stopped]
    exact ⟨halt, rfl⟩

theorem BreaksDown.cons {d : Document} {text : Text}
    (ok : (d.transformed engine resolver languages past).text = .ok text)
    (h : BreaksDown engine resolver languages
      (d.transformed engine resolver languages past).dialogue documents) :
    BreaksDown engine resolver languages past (d :: documents) := by
  obtain ⟨before, broken, after, results, now, e, rfl, turns, error⟩ := h
  exact ⟨d :: before, broken, after, _, now, e, rfl, .cons ok turns, error⟩

theorem transformAll_cases (engine : Engine) (resolver : Resolver) (languages : List Text)
    (past : Dialogue) (documents : List Document) :
    (∃ results last, InTurn engine resolver languages past documents results last) ∨
      (∃ halt, (transformAll engine resolver languages past documents).1 = .error halt) ∧
        BreaksDown engine resolver languages past documents := by
  -- what is asked for a document depends on what was asked before it
  induction documents generalizing past with
  | nil => exact .inl ⟨[], past, .nil past⟩
  | cons d rest ih =>
    cases outcome : (d.transformed engine resolver languages past).text with
    | error e =>
      exact .inr ⟨⟨_, transformAll_cons_of_error rest outcome⟩, [], d, rest, [], past, e, rfl,
        .nil past, outcome⟩
    | ok text =>
      rcases ih (d.transformed engine resolver languages past).dialogue with
        ⟨results, last, turns⟩ | ⟨⟨halt, stopped⟩, broken⟩
      · exact .inl ⟨_, last, .cons outcome turns⟩
      · refine .inr ⟨⟨halt, ?_⟩, broken.cons outcome⟩
        rw [transformAll_cons_of_ok rest outcome, stopped]
        rfl

end Transforming

section Writing

variable (output : Path)

/-- Results written one after the other, each into the directory that it belongs to. -/
inductive Written : Files → List Result → Files → Prop
  | nil (files : Files) : Written files [] files
  | cons {files prepared next last : Files} {r : Result} {rest : List Result} :
      files.createDirectory (r.target output).parent = (.ok (), prepared) →
      prepared.write (r.target output) r.written = .ok next →
      Written next rest last → Written files (r :: rest) last

/-- The last of several results whose path leads to a place. -/
def lastAt? (files : Files) (place : Place) (results : List Result) : Option Result :=
  (results.filter fun r => files.place? (r.target output) = some place).getLast?

variable {output} {files last : Files} {results : List Result}

theorem lastAt?_cons (place : Place) (r : Result) (rest : List Result) :
    lastAt? output files place (r :: rest) =
      (lastAt? output files place rest).or
        (if files.place? (r.target output) = some place then some r else none) := by
  rw [lastAt?, lastAt?, List.filter_cons]
  by_cases here : files.place? (r.target output) = some place
  · simp [here, List.getLast?_cons]
  · simp [here]

theorem lastAt?_eq_some {place : Place} {r : Result} (mem : r ∈ results)
    (leads : files.place? (r.target output) = some place)
    (only : ∀ s ∈ results, files.place? (s.target output) = some place → s = r) :
    lastAt? output files place results = some r := by
  have among : r ∈ results.filter fun s => files.place? (s.target output) = some place :=
    List.mem_filter.2 ⟨mem, decide_eq_true leads⟩
  cases last : lastAt? output files place results with
  | none =>
    rw [lastAt?, List.getLast?_eq_none_iff] at last
    exact absurd among (last ▸ List.not_mem_nil)
  | some s =>
    have held := List.mem_filter.1 (List.mem_of_getLast? last)
    rw [only s held.1 (of_decide_eq_true held.2)]

/-- A result that is written goes to the place that its path leads to, before and ever after. -/
theorem exists_place_of_step {prepared next : Files} {r : Result}
    (created : files.createDirectory (r.target output).parent = (.ok (), prepared))
    (wrote : prepared.write (r.target output) r.written = .ok next) :
    ∃ place, files.Keeps next ∧ next.place? (r.target output) = some place ∧
      ∀ other, next.contentAt? other =
        if other = place then some (.ok r.written) else files.contentAt? other := by
  have enlarges := files.enlarges_createDirectory (r.target output).parent
  rw [created] at enlarges
  obtain ⟨place, leads, keeps, contents⟩ := Files.contentAt?_of_write wrote
  refine ⟨place, enlarges.toKeeps.trans keeps, keeps.place? leads, fun other => ?_⟩
  rw [contents, enlarges.contents]

theorem keeps_of_written (h : Written output files results last) : files.Keeps last := by
  induction h with
  | nil files => exact .refl files
  | cons created wrote _ ih =>
    obtain ⟨_, keeps, -⟩ := exists_place_of_step created wrote
    exact keeps.trans ih

/-- A file holds what was last written to it, and any other is as it was. -/
theorem contentAt?_of_written (h : Written output files results last) (place : Place) :
    last.contentAt? place =
      ((lastAt? output last place results).map fun r => .ok r.written).or
        (files.contentAt? place) := by
  induction h with
  | nil files => rfl
  | @cons files prepared next last r rest created wrote others ih =>
    obtain ⟨here, -, leads, contents⟩ := exists_place_of_step created wrote
    -- a later result for the place decides before this one
    rw [ih, lastAt?_cons, contents, (keeps_of_written others).place? leads]
    cases lastAt? output last place rest with
    | some s => rfl
    | none =>
      by_cases same : place = here
      · simp [same]
      · simp [same, Ne.symm same]

theorem exists_place_of_written (h : Written output files results last) :
    ∀ r ∈ results, ∃ place, last.place? (r.target output) = some place := by
  induction h with
  | nil files => exact fun r mem => absurd mem List.not_mem_nil
  | cons created wrote others ih =>
    obtain ⟨here, -, leads, -⟩ := exists_place_of_step created wrote
    exact List.forall_mem_cons.2 ⟨⟨here, (keeps_of_written others).place? leads⟩, ih⟩

theorem writeAll_cons_of_ok {prepared next : Files} {r : Result} (rest : List Result)
    (created : files.createDirectory (r.target output).parent = (.ok (), prepared))
    (wrote : prepared.write (r.target output) r.written = .ok next) :
    ∃ line, writeAll output files (r :: rest) =
      ((writeAll output next rest).1.map (r.target output :: ·), (writeAll output next rest).2.1,
        line :: (writeAll output next rest).2.2) := by
  rw [Result.target] at created wrote
  rw [Result.written] at wrote
  simp only [writeAll, created, Except.bind, wrote]
  exact ⟨_, rfl⟩

theorem exists_of_writeAll_cons {r : Result} {rest : List Result} {targets : List Path}
    (ok : (writeAll output files (r :: rest)).1 = .ok targets) :
    ∃ prepared next, files.createDirectory (r.target output).parent = (.ok (), prepared) ∧
      prepared.write (r.target output) r.written = .ok next := by
  rw [Result.target, Result.written]
  rw [writeAll] at ok
  cases made : files.createDirectory (output.below r.document.place.names).parent with
  | mk created prepared =>
    refine ⟨prepared, ?_⟩
    simp only [made] at ok
    cases wrote : created.bind fun () => prepared.write (output.below r.document.place.names)
      (Headed.join r.document.source.raw r.text) with
    | error e =>
      simp only [wrote] at ok
      exact nomatch ok
    | ok next =>
      cases created with
      | error e => exact nomatch wrote
      | ok _ => exact ⟨next, rfl, wrote⟩

theorem writeAll_of_written (h : Written output files results last) :
    ∃ journal, writeAll output files results =
      (.ok (results.map (·.target output)), last, journal) := by
  induction h with
  | nil files => exact ⟨[], rfl⟩
  | @cons _ _ _ _ _ rest created wrote _ ih =>
    obtain ⟨journal, others⟩ := ih
    obtain ⟨line, all⟩ := writeAll_cons_of_ok rest created wrote
    rw [all, others]
    exact ⟨_, rfl⟩

/-- If writing goes through, each result is written after those before it. -/
theorem written_of_writeAll {targets : List Path}
    (ok : (writeAll output files results).1 = .ok targets) :
    Written output files results (writeAll output files results).2.1 := by
  -- each result is written to the files that the one before it leaves
  induction results generalizing files targets with
  | nil => exact .nil files
  | cons r rest ih =>
    obtain ⟨prepared, next, created, wrote⟩ := exists_of_writeAll_cons ok
    obtain ⟨line, all⟩ := writeAll_cons_of_ok rest created wrote
    rw [all] at ok ⊢
    cases others : (writeAll output next rest).1 with
    | error halt => simp [others, Except.map] at ok
    | ok more => exact .cons created wrote (ih others)

end Writing

end Stage
end PageDirectives
