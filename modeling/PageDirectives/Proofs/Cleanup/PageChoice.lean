import PageDirectives.Proofs.Cleanup.Languages
/-!
Pages that choose the languages whose fences come off. A page says true, names one language or lists
several, and then the languages that are given for all pages do not matter. It may also say false or
list none, but a choice of no languages counts as no choice, so such a page gets the fences of the
other languages taken off as though it had said nothing.
-/
namespace PageDirectives.Cleanup

/-- A value with which a page chooses languages, and the languages that it stands for. -/
inductive Chooses : Value → List Text → Prop
  | usual : Chooses (.bool true) ["html", "xml"]
  | nothing : Chooses (.bool false) []
  | one (name : Text) : Chooses (.text name) [name]
  | several (names : List Text) : Chooses (.list (names.map .text)) names

/-- Whatever languages are given for all pages, a page has the same languages. -/
def DecidesLanguages (page : Entries) : Prop :=
  ∀ (given given' : Option (List Text)) (otherwise otherwise' : List Text),
    languages page (givenLanguages given) otherwise =
      languages page (givenLanguages given') otherwise'

/-- Whatever languages are given for all pages, the same fences of a page come off. -/
def DecidesFences (page : Entries) : Prop :=
  ∀ (text : Text) (given given' : Option (List Text)) (otherwise otherwise' : List Text),
    (run text page (givenLanguages given) otherwise).text =
      (run text page (givenLanguages given') otherwise').text

/-- A text without its comments and highlights, and without the fences of some languages. -/
def cleaned (languages : List Text) (text : Text) : Text :=
  languages.foldl (fun text name => unwrapFences name text)
    (markHighlights (stripCommentCallouts (stripComments text)))

variable {page : Entries} {v : Value} {names : List Text}

theorem text_run {given : Value} {otherwise : List Text}
    (chosen : languages page given otherwise = .ok (names.map .text)) (text : Text) :
    (run text page given otherwise).text = .ok (cleaned names text) := by
  rcases run_cases text page given otherwise with ⟨names', chosen', ran⟩ | ⟨none, -⟩
  · have same : names' = names :=
      (List.map_inj_right fun _ _ => Value.text.inj).1 (Except.ok.inj (chosen'.symm.trans chosen))
    rw [ran, same, cleaned]
  · exact absurd ⟨names, chosen⟩ none

/-- A choice of no languages leaves the languages to others. -/
theorem languages_of_chooses (written : page.at? languagesField = some v) (choice : Chooses v names)
    (given : Option (List Text)) (otherwise : List Text) :
    languages page (givenLanguages given) otherwise =
      .ok ((if names = [] then given.getD otherwise else names).map .text) := by
  cases choice with
  | usual =>
    unfold languages
    rw [written]
    rfl
  | one name =>
    unfold languages
    rw [written]
    rfl
  | nothing => exact languages_of_some given otherwise written (by simp) (by simp)
  | several =>
    rw [languages_of_some given otherwise written (by simp) (by simp)]
    cases names <;> rfl

theorem not_decidesFences_of_languages
    (left : ∀ given otherwise, languages page (givenLanguages given) otherwise =
      .ok ((given.getD otherwise).map .text)) : ¬ DecidesFences page := by
  intro decides
  have same := decides "```html\nx\n```" none none ["html"] []
  rw [text_run (left none ["html"]), text_run (left none [])] at same
  exact absurd (Except.ok.inj same) (by decide +kernel)

theorem decidesFences_of_decidesLanguages (decides : DecidesLanguages page)
    (chosen : languages page (givenLanguages none) [] = .ok (names.map .text)) :
    DecidesFences page := by
  intro text given given' otherwise otherwise'
  rw [text_run ((decides given none otherwise []).trans chosen),
    text_run ((decides given' none otherwise' []).trans chosen)]

/-- A page that chooses languages decides which fences come off, whatever is given for all pages,
exactly if it chooses at least one. Otherwise the languages that are given take the place of its
choice. -/
theorem decidesFences_iff (written : page.at? languagesField = some v) (choice : Chooses v names) :
    (DecidesLanguages page ↔ names ≠ []) ∧ (DecidesFences page ↔ names ≠ []) ∧
      ∀ given otherwise,
        let chosen := if names = [] then given.getD otherwise else names
        languages page (givenLanguages given) otherwise = .ok (chosen.map .text) ∧
          ∀ text, (run text page (givenLanguages given) otherwise).text =
            .ok (cleaned chosen text) := by
  have chosen := languages_of_chooses written choice
  have fences : names = [] → ¬ DecidesFences page := by
    rintro rfl
    exact not_decidesFences_of_languages chosen
  have decides : names ≠ [] → DecidesLanguages page := by
    intro some given given' otherwise otherwise'
    rw [chosen, chosen, if_neg some, if_neg some]
  have onward (all : DecidesLanguages page) : DecidesFences page :=
    decidesFences_of_decidesLanguages all (chosen none [])
  refine ⟨⟨fun all none => fences none (onward all), decides⟩,
    ⟨fun all none => fences none all, fun some => onward (decides some)⟩,
    fun given otherwise => ⟨chosen given otherwise, text_run (chosen given otherwise)⟩⟩

/-- A page that lists two languages, one of them empty, in the light of two settings. -/
theorem decidesFences_of_two :
    let page : Entries := [(.text "title", .text "T"),
      (.text languagesField, .list [.text "xml", .text []])]
    page.at? languagesField = some (.list [.text "xml", .text []]) ∧
      Chooses (.list [.text "xml", .text []]) ["xml", []] ∧ DecidesLanguages page ∧
      DecidesFences page ∧
      (run "```xml\na\n```\n```\nb\n```\n```html\nc\n```" page .null ["html"]).text =
        .ok "a\nb\n```html\nc\n```" := by
  intro page
  have written : page.at? languagesField = some (.list [.text "xml", .text []]) := rfl
  have choice : Chooses (.list [.text "xml", .text []]) ["xml", []] := .several ["xml", []]
  obtain ⟨languages, fences, chosen⟩ := decidesFences_iff written choice
  refine ⟨written, choice, languages.2 (by simp), fences.2 (by simp), ?_⟩
  exact ((chosen none ["html"]).2 _).trans (congrArg Except.ok (by decide +kernel))

/-- A page that says false has the fences taken off that a setting names, and so does one that lists
no languages. -/
theorem not_decidesFences :
    let text : Text := "```html\nx\n```"
    ∀ v ∈ [Value.bool false, .list []],
      let page : Entries := [(.text languagesField, v)]
      Chooses v [] ∧
        languages page (givenLanguages (some ["html"])) [] = .ok [.text "html"] ∧
        languages page (givenLanguages none) ["html"] = .ok [.text "html"] ∧
        languages page (givenLanguages none) [] = .ok [] ∧
        (run text page (givenLanguages none) ["html"]).text = .ok "x" ∧
        (run text page (givenLanguages none) []).text = .ok text ∧
        ¬ DecidesLanguages page ∧ ¬ DecidesFences page := by
  intro text v among page
  have choice : Chooses v [] := by
    rcases List.mem_cons.1 among with rfl | among
    · exact .nothing
    · obtain rfl := List.mem_singleton.1 among
      exact .several []
  have written : page.at? languagesField = some v := rfl
  have chosen := languages_of_chooses written choice
  have without := text_run (chosen none []) text
  have unwrapped := text_run (chosen none ["html"]) text
  refine ⟨choice, chosen _ _, chosen _ _, chosen _ _, unwrapped.trans ?_, without.trans ?_, ?_,
    not_decidesFences_of_languages chosen⟩
  · exact congrArg Except.ok (by decide +kernel)
  · exact congrArg Except.ok (by decide +kernel)
  · exact fun decides => not_decidesFences_of_languages chosen
      (decidesFences_of_decidesLanguages decides (chosen none []))

end PageDirectives.Cleanup
