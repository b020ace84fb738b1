import PageDirectives.Cleanup.Run
import PageDirectives.Header
/-!
Which pages a cleanup can deal with. A page may hold any value in the field that chooses languages.
A value that counts as false leaves the choice to others, and true stands for two languages. Of the
rest the items are taken as languages, and the line that is logged about them joins them as texts, so
a cleanup fails on a value without items, and on one with an item that is no text. Nothing else in a
cleanup fails: neither the patterns for fences nor the dates.
-/
namespace PageDirectives

/-- A value is a text. -/
def Value.IsText (v : Value) : Prop := ∃ s, v = .text s

namespace Cleanup

/-- Values of the field that chooses languages with which a cleanup can deal. -/
def NamesLanguages : Value → Prop
  | .bool _ => True
  | .text _ => True
  | .pair first second => first.IsText ∧ second.IsText
  | .list items => ∀ v ∈ items, v.IsText
  | .set items => ∀ v ∈ items, v.IsText
  | .map entries => ∀ entry ∈ entries, entry.1.IsText
  | v => v.isTruthy = false

/-- The argument that gives languages, if any are given. -/
def givenLanguages : Option (List Text) → Value
  | none => .null
  | some names => .list (names.map .text)

variable {text : Text} {page : Entries} {otherwise : List Text} {v given : Value}

theorem namesLanguages_of_not_isTruthy (falsy : v.isTruthy = false) : NamesLanguages v := by
  cases v with
  | pair first second => exact Bool.noConfusion falsy
  | list items =>
    have empty : items = [] := by simpa [Value.isTruthy] using falsy
    simp [NamesLanguages, empty]
  | set items =>
    have empty : items = [] := by simpa [Value.isTruthy] using falsy
    simp [NamesLanguages, empty]
  | map entries =>
    have empty : entries = [] := by simpa [Value.isTruthy] using falsy
    simp [NamesLanguages, empty]
  | bool b => trivial
  | text s => trivial
  | _ => exact falsy

/-- Where a value counts as true and is not the truth value, its items have to be texts. -/
theorem namesLanguages_iff_of_isTruthy (truthy : v.isTruthy = true) (notTrue : v ≠ .bool true) :
    NamesLanguages v ↔ ∃ items, v.items? = some items ∧ ∀ item ∈ items, item.IsText := by
  cases v with
  | null => exact Bool.noConfusion truthy
  | bool b =>
    cases b with
    | false => exact Bool.noConfusion truthy
    | true => exact absurd rfl notTrue
  | text s =>
    refine iff_of_true trivial ⟨_, rfl, List.forall_mem_map.2 fun c _ => ⟨[c], rfl⟩⟩
  | bytes bs =>
    have filled : bs ≠ [] := by simpa [Value.isTruthy] using truthy
    obtain ⟨b, others, rfl⟩ := List.exists_cons_of_ne_nil filled
    simp [NamesLanguages, Value.items?, Value.isTruthy, Value.IsText]
  | pair first second => simp [NamesLanguages, Value.items?]
  | list items => simp [NamesLanguages, Value.items?]
  | set items => simp [NamesLanguages, Value.items?]
  | map entries => simp [NamesLanguages, Value.items?]
  | _ => simp [NamesLanguages, Value.items?, truthy]

/-- Values are taken as texts if all of them are, and else the first that is none is reported. -/
theorem texts_cases (index : Nat) (vs : List Value) :
    (∃ names, vs = names.map .text ∧ texts index vs = .ok names) ∨
      ((∃ v ∈ vs, ¬ v.IsText) ∧ ∃ i kind, texts index vs = .error (.notAText i kind)) := by
  induction vs generalizing index with
  | nil => exact .inl ⟨[], rfl, rfl⟩
  | cons v vs ih =>
    by_cases isText : v.IsText
    · obtain ⟨s, rfl⟩ := isText
      rw [texts]
      rcases ih (index + 1) with ⟨names, rfl, read⟩ | ⟨⟨w, hw, other⟩, i, kind, failed⟩
      · exact .inl ⟨s :: names, rfl, by rw [read]; rfl⟩
      · exact .inr ⟨⟨w, List.mem_cons_of_mem _ hw, other⟩, i, kind, by rw [failed]; rfl⟩
    · refine .inr ⟨⟨v, List.mem_cons_self, isText⟩, index, v.qualifiedKind, ?_⟩
      cases v with
      | text s => exact absurd ⟨s, rfl⟩ isText
      | _ => rfl

theorem forall_isText_iff {vs : List Value} :
    (∀ v ∈ vs, v.IsText) ↔ ∃ names : List Text, vs = names.map .text := by
  constructor
  · intro all
    rcases texts_cases 0 vs with ⟨names, same, -⟩ | ⟨⟨v, hv, other⟩, -⟩
    · exact ⟨names, same⟩
    · exact absurd (all v hv) other
  · rintro ⟨names, rfl⟩
    exact List.forall_mem_map.2 fun name _ => ⟨name, rfl⟩

section Choice

variable (given : Option (List Text)) (otherwise : List Text)

theorem languages_of_none (none : page.at? languagesField = none) :
    languages page (givenLanguages given) otherwise =
      .ok ((given.getD otherwise).map .text) := by
  unfold languages
  rw [none]
  cases given <;> rfl

/-- A value that is neither true nor a text gives its items, or leaves the choice to others. -/
theorem languages_of_some (chosen : page.at? languagesField = some v) (notTrue : v ≠ .bool true)
    (notText : ∀ s, v ≠ .text s) :
    languages page (givenLanguages given) otherwise =
      if v.isTruthy then itemsOf v else .ok ((given.getD otherwise).map .text) := by
  unfold languages
  rw [chosen]
  split
  · next same => exact absurd (Option.some.inj same) notTrue
  · next s same => exact absurd (Option.some.inj same) (notText s)
  · cases given <;> rfl

/-- The languages are texts exactly if those that the page chooses, if it does, are. -/
theorem exists_languages_iff :
    (∃ names : List Text,
        languages page (givenLanguages given) otherwise = .ok (names.map .text)) ↔
      ∀ v, page.at? languagesField = some v → NamesLanguages v := by
  cases chosen : page.at? languagesField with
  | none => exact iff_of_true ⟨_, languages_of_none given otherwise chosen⟩ fun v none => nomatch none
  | some v =>
    simp only [Option.some.injEq, forall_eq']
    by_cases notTrue : v = .bool true
    · subst notTrue
      refine iff_of_true ⟨["html", "xml"], ?_⟩ trivial
      unfold languages
      rw [chosen]
      rfl
    by_cases isText : v.IsText
    · obtain ⟨s, rfl⟩ := isText
      refine iff_of_true ⟨[s], ?_⟩ trivial
      unfold languages
      rw [chosen]
      rfl
    rw [languages_of_some given otherwise chosen notTrue fun s same => isText ⟨s, same⟩]
    cases truthy : v.isTruthy with
    | false => exact iff_of_true ⟨_, rfl⟩ (namesLanguages_of_not_isTruthy truthy)
    | true =>
      rw [namesLanguages_iff_of_isTruthy truthy notTrue, if_pos rfl, itemsOf]
      cases v.items? with
      | none => simp
      | some items => simp [forall_isText_iff]

end Choice

theorem exists_notIterable_of_itemsOf {e : CleanupError} (failed : itemsOf v = .error e) :
    ∃ kind, e = .notIterable kind := by
  rw [itemsOf] at failed
  split at failed
  · cases failed
  · exact ⟨_, (Except.error.inj failed).symm⟩

theorem exists_notIterable_of_languages {e : CleanupError}
    (failed : languages page given otherwise = .error e) : ∃ kind, e = .notIterable kind := by
  unfold languages at failed
  split at failed
  · cases failed
  · cases failed
  · dsimp only at failed
    split at failed
    · exact exists_notIterable_of_itemsOf failed
    · split at failed
      · cases failed
      · exact exists_notIterable_of_itemsOf failed

/-- A cleanup takes the fences of its languages off if they are texts. Otherwise it fails, leaves the
page as it is and logs nothing. -/
theorem run_cases (text : Text) (page : Entries) (given : Value) (otherwise : List Text) :
    (∃ names : List Text, languages page given otherwise = .ok (names.map .text) ∧
        run text page given otherwise =
          ⟨.ok (names.foldl (fun text name => unwrapFences name text)
              (markHighlights (stripCommentCallouts (stripComments text)))),
            fixDates page, if names = [] then [] else [fencesNote names]⟩) ∨
      (¬ ∃ names : List Text, languages page given otherwise = .ok (names.map .text)) ∧
        ∃ e, run text page given otherwise = ⟨.error e, page, []⟩ ∧
          ((∃ kind, e = .notIterable kind) ∨ ∃ index kind, e = .notAText index kind) := by
  rw [run]
  cases chosen : languages page given otherwise with
  | error e =>
    refine .inr ⟨by rintro ⟨_, ⟨⟩⟩, e, rfl, ?_⟩
    exact .inl (exists_notIterable_of_languages chosen)
  | ok vs =>
    rcases texts_cases 0 vs with ⟨names, rfl, read⟩ | ⟨⟨v, hv, other⟩, index, kind, failed⟩
    · refine .inl ⟨names, rfl, ?_⟩
      cases names with
      | nil => rfl
      | cons name names =>
        rw [List.map_cons] at read ⊢
        simp only [read]
        rfl
    · refine .inr ⟨?_, .notAText index kind, ?_, .inr ⟨index, kind, rfl⟩⟩
      · rintro ⟨names, same⟩
        exact other (forall_isText_iff.2 ⟨names, Except.ok.inj same⟩ v hv)
      · cases vs with
        | nil => simp at hv
        | cons first others => simp only [failed]

/-- Whatever its text and the languages given, a cleanup has a result exactly if the page chooses no
languages, or chooses them with a value that has texts as items, is a truth value or counts as
false. A cleanup that fails leaves the page as it is, and fails because of the kind of a value. -/
theorem run_ok_iff (text : Text) (page : Entries) (given : Option (List Text))
    (otherwise : List Text) :
    ((∃ out, (run text page (givenLanguages given) otherwise).text = .ok out) ↔
        ∀ v, page.at? languagesField = some v → NamesLanguages v) ∧
      ∀ e, (run text page (givenLanguages given) otherwise).text = .error e →
        (run text page (givenLanguages given) otherwise).page = page ∧
          ((∃ kind, e = .notIterable kind) ∨ ∃ index kind, e = .notAText index kind) := by
  rw [← exists_languages_iff given otherwise]
  rcases run_cases text page (givenLanguages given) otherwise with
    ⟨names, chosen, ran⟩ | ⟨noTexts, e, ran, reason⟩
  · rw [ran]
    exact ⟨iff_of_true ⟨_, rfl⟩ ⟨names, chosen⟩, fun e failed => nomatch failed⟩
  · rw [ran]
    refine ⟨iff_of_false (fun ⟨_, ok⟩ => nomatch ok) noTexts, fun e' failed => ⟨rfl, ?_⟩⟩
    rwa [← Except.error.inj failed]

/-- A header that lists a number among the languages makes a cleanup fail, and so does a number in
the place of languages. -/
theorem run_error_of_numbers :
    let page : Entries := [(.text languagesField, .list [.int 1])]
    Source.fieldsOf "escapeCodeBlocks: [1]\n" = .ok page ∧
      (∀ given otherwise, (run "a" page (givenLanguages given) otherwise).text =
        .error (.notAText 0 "int")) ∧
      (∀ given otherwise,
        (run "a" [(.text languagesField, .int 5)] (givenLanguages given) otherwise).text =
          .error (.notIterable "int")) ∧
      ¬ ∀ v, page.at? languagesField = some v → NamesLanguages v := by
  intro page
  have tokens : Yaml.tokens "escapeCodeBlocks: [1]\n" = [.blockMapping, .key,
      .scalar languagesField true, .value, .openSequence, .scalar "1" true, .closeSequence,
      .blockEnd, .finish] := by decide +kernel
  have root : Yaml.Node.ofText? "escapeCodeBlocks: [1]\n" = .ok (some (.mapping .mapping
      [(.scalar (Yaml.Kind.ofPlain languagesField) languagesField,
        .sequence .sequence [.scalar (Yaml.Kind.ofPlain "1") "1"])])) := by
    rw [Yaml.Node.ofText?, tokens]
    rfl
  have key : Yaml.Kind.ofPlain languagesField = .string := by decide +kernel
  have number : Yaml.Kind.ofPlain "1" = .integer := by decide +kernel
  have reads : Yaml.read "escapeCodeBlocks: [1]\n" = .ok (.map page) := by
    rw [Yaml.read, root, key, number]
    simp only [bind, Except.bind, Yaml.Node.value, Yaml.Node.fields, Yaml.Node.merged,
      Yaml.Node.own, Yaml.Node.key, Yaml.Node.values]
    rfl
  have chosen : page.at? languagesField = some (.list [.int 1]) := rfl
  refine ⟨?_, fun given otherwise => ?_, fun given otherwise => ?_, fun all => ?_⟩
  · rw [Source.fieldsOf, reads]
    rfl
  · rw [run, languages_of_some given otherwise chosen (by simp) (by simp)]
    rfl
  · rw [run, languages_of_some (v := .int 5) given otherwise rfl (by simp) (by simp)]
    rfl
  · obtain ⟨s, same⟩ := all _ chosen (.int 1) (List.mem_singleton_self _)
    cases same

end Cleanup
end PageDirectives
