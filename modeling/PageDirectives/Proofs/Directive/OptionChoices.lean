import PageDirectives.Proofs.Directive.OptionEntries
import PageDirectives.Proofs.Directive.Registry
import PageDirectives.Proofs.Value.Words
/-!
What options choose. Their entries choose forms and a priority, or keep silent about them; anything
else in their place is refused. An error that is no refusal comes of two things only: the options
give no entries, or what is refused holds a whole number that is too long for the refusal to show.
-/
namespace PageDirectives

namespace AddError

/-- The outcome of a call is a registration or a refusal. -/
def Decided {α : Type} (outcome : Except AddError α) : Prop :=
  (∃ a, outcome = .ok a) ∨ ∃ r, outcome = .error (.refused r)

/-- The outcome of a call is an error that is no refusal. -/
def EndsWith {α : Type} (outcome : Except AddError α) (e : AddError) : Prop :=
  outcome = .error e ∧ ∀ r, e ≠ .refused r

section Outcomes

variable {α β : Type} {outcome : Except AddError α} {f : α → Except AddError β} {e : AddError}

theorem decided_iff_not_endsWith : Decided outcome ↔ ∀ e, ¬ EndsWith outcome e := by
  constructor
  · rintro (⟨a, rfl⟩ | ⟨r, rfl⟩) e ⟨same, other⟩
    · exact nomatch same
    · exact other r (Except.error.inj same).symm
  · intro none
    cases outcome with
    | ok a => exact .inl ⟨a, rfl⟩
    | error e =>
      cases e with
      | refused r => exact .inr ⟨r, rfl⟩
      | _ => exact absurd ⟨rfl, nofun⟩ (none _)

theorem not_endsWith_ok (a : α) : ¬ EndsWith (.ok a) e := fun ends => nomatch ends.1

theorem not_endsWith_refused (r : Refusal) :
    ¬ EndsWith (.error (.refused r) : Except AddError α) e :=
  fun ends => ends.2 r (Except.error.inj ends.1).symm

theorem endsWith_bind_iff : EndsWith (outcome >>= f) e ↔
    EndsWith outcome e ∨ ∃ a, outcome = .ok a ∧ EndsWith (f a) e := by
  cases outcome <;> simp [EndsWith, bind, Except.bind]

theorem endsWith_mapError_iff {δ : Type} {x : Except δ α} {wrap : δ → AddError}
    (other : ∀ d r, wrap d ≠ .refused r) :
    EndsWith (x.mapError wrap) e ↔ ∃ d, x = .error d ∧ e = wrap d := by
  cases x with
  | error d =>
    simp only [EndsWith, Except.mapError, Except.error.injEq, exists_eq_left']
    constructor
    · rintro ⟨rfl, -⟩
      rfl
    · rintro rfl
      exact ⟨rfl, other d⟩
  | ok a => simp [EndsWith, Except.mapError]

/-- A refusal shows what is refused by its literal, and is one unless that has none. -/
theorem endsWith_refusal_iff {v : Value} {refusal : Text → Refusal} :
    EndsWith (do
      let literal ← v.literal.mapError AddError.number
      .error (.refused (refusal literal)) : Except AddError α) e ↔
        v.HasLong ∧ e = .number .tooLongToWrite := by
  rw [endsWith_bind_iff, endsWith_mapError_iff nofun]
  rcases v.literal_refusedIf with ⟨long, failed⟩ | ⟨short, literal, written⟩
  · rw [failed]
    simp [Value.HasLong, long, Except.mapError]
  · rw [written]
    simp [Value.HasLong, short, Except.mapError, not_endsWith_refused]

end Outcomes

end AddError

namespace Options

open AddError Registry

/-- Options choose forms: as such, by keeping silent, or by a word in letters of any case. -/
inductive ChoosesForms (o : Options) (entries : Entries) : Forms → Prop
  | given {forms : Forms} (chosen : o.forms = some forms) : ChoosesForms o entries forms
  | silent (free : o.forms = none) (absent : entries.at? "type" = none) :
    ChoosesForms o entries .block
  | word {s : Text} {forms : Forms} (free : o.forms = none)
    (written : entries.at? "type" = some (.text s)) (named : Text.lower s = forms.word) :
    ChoosesForms o entries forms

/-- Options choose a priority: a whole number, or by keeping silent the one that is given else. -/
inductive ChoosesPriority (entries : Entries) (otherwise : Int) : Int → Prop
  | silent (absent : entries.at? "priority" = none) : ChoosesPriority entries otherwise otherwise
  | whole {n : Int} (written : entries.at? "priority" = some (.int n)) :
    ChoosesPriority entries otherwise n

/-- Options give entries that choose forms and a priority. -/
def Chooses (o : Options) (otherwise : Int) (forms : Forms) (priority : Int) : Prop :=
  ∃ entries, Gives o.given entries ∧ ChoosesForms o entries forms ∧
    ChoosesPriority entries otherwise priority

/-- Options are answered with an error that is no refusal: they give no entries, or what they have
for forms or for a priority is none and has no text. -/
inductive Stray (o : Options) : AddError → Prop
  | entries {e : OptionsError} (fails : Fails o.given e) : Stray o (.options e)
  | forms {entries : Entries} {v : Value} (gives : Gives o.given entries) (free : o.forms = none)
    (written : entries.at? "type" = some v) (long : v.HasLong) : Stray o (.number .tooLongToWrite)
  | priority {entries : Entries} {forms : Forms} {v : Value} (gives : Gives o.given entries)
    (formed : ChoosesForms o entries forms) (written : entries.at? "priority" = some v)
    (other : ∀ n, v ≠ .int n) (long : v.HasLong) : Stray o (.number .tooLongToWrite)

section Chosen

variable {o : Options} {entries : Entries} {name : Text} {e : AddError}

theorem chosenForms_of_word {v : Value} {forms : Forms} (free : o.forms = none)
    (written : entries.at? "type" = some v)
    (word : (v.display.toOption.map Text.lower).bind Forms.ofWord? = some forms) :
    o.chosenForms entries name = .ok forms := by
  simp only [chosenForms, free, written, word]

theorem chosenForms_of_no_word {v : Value} (free : o.forms = none)
    (written : entries.at? "type" = some v)
    (other : (v.display.toOption.map Text.lower).bind Forms.ofWord? = none) :
    o.chosenForms entries name = (do
      let literal ← v.literal.mapError .number
      .error (.refused (.unknownForms literal name))) := by
  simp only [chosenForms, free, written, other]

theorem chosenForms_eq_ok_iff {forms : Forms} :
    o.chosenForms entries name = .ok forms ↔ o.ChoosesForms entries forms := by
  constructor
  · intro formed
    cases free : o.forms with
    | some given =>
      rw [chosenForms, free] at formed
      obtain rfl := Except.ok.inj formed
      exact .given free
    | none =>
      cases written : entries.at? "type" with
      | none =>
        rw [chosenForms, free, written] at formed
        obtain rfl := Except.ok.inj formed
        exact .silent free written
      | some v =>
        cases read : (v.display.toOption.map Text.lower).bind Forms.ofWord? with
        | some given =>
          rw [chosenForms_of_word free written read] at formed
          obtain rfl := Except.ok.inj formed
          obtain ⟨s, rfl, named⟩ := Value.bind_ofWord?_eq_some_iff.1 read
          exact .word free written named
        | none =>
          rw [chosenForms_of_no_word free written read] at formed
          obtain ⟨literal, -, refused⟩ := exists_of_bind_eq_ok formed
          exact nomatch refused
  · rintro (chosen | ⟨free, absent⟩ | ⟨free, written, named⟩)
    · rw [chosenForms, chosen]
    · rw [chosenForms, free, absent]
    · exact chosenForms_of_word free written (Value.bind_ofWord?_eq_some_iff.2 ⟨_, rfl, named⟩)

theorem endsWith_chosenForms_iff : EndsWith (o.chosenForms entries name) e ↔
    o.forms = none ∧ (∃ v, entries.at? "type" = some v ∧ v.HasLong) ∧
      e = .number .tooLongToWrite := by
  cases free : o.forms with
  | some given =>
    rw [chosenForms, free]
    simp [not_endsWith_ok]
  | none =>
    cases written : entries.at? "type" with
    | none =>
      rw [chosenForms, free, written]
      simp [not_endsWith_ok]
    | some v =>
      cases read : (v.display.toOption.map Text.lower).bind Forms.ofWord? with
      | some forms =>
        rw [chosenForms_of_word free written read]
        obtain ⟨s, rfl, named⟩ := Value.bind_ofWord?_eq_some_iff.1 read
        simp [not_endsWith_ok, Value.HasLong, Value.wholes]
      | none =>
        rw [chosenForms_of_no_word free written read, endsWith_refusal_iff]
        simp

theorem chosenPriority_eq_ok_iff {otherwise priority : Int} :
    chosenPriority entries name otherwise = .ok priority ↔
      ChoosesPriority entries otherwise priority := by
  constructor
  · intro ranked
    rw [chosenPriority] at ranked
    split at ranked
    · next absent =>
      obtain rfl := Except.ok.inj ranked
      exact .silent absent
    · next written =>
      obtain rfl := Except.ok.inj ranked
      exact .whole written
    · obtain ⟨literal, -, refused⟩ := exists_of_bind_eq_ok ranked
      exact nomatch refused
  · rintro (absent | written)
    · rw [chosenPriority, absent]
    · rw [chosenPriority, written]

theorem endsWith_chosenPriority_iff {otherwise : Int} :
    EndsWith (chosenPriority entries name otherwise) e ↔
      (∃ v, entries.at? "priority" = some v ∧ (∀ n, v ≠ .int n) ∧ v.HasLong) ∧
        e = .number .tooLongToWrite := by
  rw [chosenPriority]
  split
  · next absent =>
    rw [absent]
    simp [not_endsWith_ok]
  · next n written =>
    rw [written]
    simp [not_endsWith_ok]
  · next v other written =>
    rw [endsWith_refusal_iff, written]
    simp [show ∀ n, v ≠ .int n from other]

/-- What becomes of a call with a name that can be registered and a handler. -/
def chosen (o : Options) (defaultPriority : Int) (name : Text) (h : Handler) :
    Except AddError Registration := do
  let entries ← (Options.entries o.given).mapError .options
  let forms ← o.chosenForms entries name
  let priority ← chosenPriority entries name defaultPriority
  .ok ⟨name, forms, priority, h⟩

theorem chosen_eq_ok_iff {defaultPriority : Int} {h : Handler} {r : Registration} :
    o.chosen defaultPriority name h = .ok r ↔
      r.name = name ∧ r.handler = h ∧ o.Chooses defaultPriority r.forms r.priority := by
  constructor
  · intro made
    obtain ⟨entries, read, made⟩ := exists_of_bind_eq_ok made
    obtain ⟨forms, formed, made⟩ := exists_of_bind_eq_ok made
    obtain ⟨priority, ranked, made⟩ := exists_of_bind_eq_ok made
    obtain rfl := Except.ok.inj made
    exact ⟨rfl, rfl, entries, entries_eq_ok_iff.1 (eq_ok_of_mapError read),
      chosenForms_eq_ok_iff.1 formed, chosenPriority_eq_ok_iff.1 ranked⟩
  · rintro ⟨rfl, rfl, entries, gives, formed, ranked⟩
    rw [chosen, entries_eq_ok_iff.2 gives]
    simp only [Except.mapError, bind, Except.bind, chosenForms_eq_ok_iff.2 formed,
      chosenPriority_eq_ok_iff.2 ranked]

theorem endsWith_chosen_iff {defaultPriority : Int} {h : Handler} :
    EndsWith (o.chosen defaultPriority name h) e ↔ o.Stray e := by
  rw [chosen, endsWith_bind_iff, endsWith_mapError_iff nofun]
  simp only [endsWith_bind_iff, endsWith_chosenForms_iff, chosenForms_eq_ok_iff,
    endsWith_chosenPriority_iff, not_endsWith_ok, and_false, exists_false, or_false]
  constructor
  · rintro (⟨fault, failed, rfl⟩ | ⟨entries, read, ⟨free, ⟨v, written, long⟩, rfl⟩ |
      ⟨forms, formed, ⟨v, written, other, long⟩, rfl⟩⟩)
    · exact .entries (entries_eq_error_iff.1 failed)
    · exact .forms (entries_eq_ok_iff.1 (eq_ok_of_mapError read)) free written long
    · exact .priority (entries_eq_ok_iff.1 (eq_ok_of_mapError read)) formed written other
        long
  · rintro (fails | ⟨gives, free, written, long⟩ | ⟨gives, formed, written, other, long⟩)
    · exact .inl ⟨_, entries_eq_error_iff.2 fails, rfl⟩
    · refine .inr ⟨_, ?_, .inl ⟨free, ⟨_, written, long⟩, rfl⟩⟩
      rw [entries_eq_ok_iff.2 gives]
      rfl
    · refine .inr ⟨_, ?_, .inr ⟨_, formed, ⟨_, written, other, long⟩, rfl⟩⟩
      rw [entries_eq_ok_iff.2 gives]
      rfl

end Chosen

end Options
end PageDirectives
