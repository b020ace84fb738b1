import Mathlib.Algebra.Ring.Int.Defs
import PageDirectives.Proofs.Directive.OptionChoices
/-!
Which calls of registering are decided, by a registration or a refusal. A call is granted one if its
name can be registered, a handler is given in its own place or in that of the options, and the
options give entries that choose forms and a priority. Every other call should be refused. It is,
unless its options give no entries, or what is to be refused has no text for the refusal to show.
-/
namespace PageDirectives

/-- A value is a name that can be registered. -/
structure Registrable (name : Value) (s : Text) : Prop where
  text : name = .text s
  valid : Text.isName s = true
  free : Directive.isReserved s = false

namespace Registry

open AddError

/-- A call gives a handler with options: beside each other, or the handler alone in the place of the
options. -/
inductive Hands : Slot → Offer → Handler → Options → Prop
  | offered (o : Options) (h : Handler) : Hands (.options o) (.handler h) h o
  | placed (h : Handler) : Hands (.handler h) (.other .null) h {}

/-- A call is granted a registration. -/
structure Admits (defaultPriority : Int) (name : Value) (slot : Slot) (offer : Offer)
    (r : Registration) : Prop where
  name : Registrable name r.name
  handler : ∃ o, Hands slot offer r.handler o ∧ o.Chooses defaultPriority r.forms r.priority

/-- A call strays, with an error that is no refusal. -/
inductive Strays (name : Value) (slot : Slot) (offer : Offer) : AddError → Prop
  | name (other : ∀ s, name ≠ .text s) (long : name.HasLong) :
    Strays name slot offer (.number .tooLongToWrite)
  | twice {s : Text} {placed offered : Handler} (named : Registrable name s)
    (first : slot = .handler placed) (second : offer = .handler offered) :
    Strays name slot offer (.options (.notIterable "function"))
  | options {s : Text} {h : Handler} {o : Options} {e : AddError} (named : Registrable name s)
    (hands : Hands slot offer h o) (stray : o.Stray e) : Strays name slot offer e

section Accepted

variable {defaultPriority : Int} {name : Value} {o : Options} {offer : Offer} {e : AddError}

theorem accept_of_registrable {s : Text} (named : Registrable name s) (h : Handler) :
    accept defaultPriority name o (.handler h) = o.chosen defaultPriority s h := by
  obtain ⟨rfl, valid, free⟩ := named
  simp only [accept, valid, free, if_true, Bool.false_eq_true, if_false, bind,
    Except.bind, Options.chosen]

theorem accept_of_other {s : Text} (named : Registrable name s) (v : Value) :
    accept defaultPriority name o (.other v) = .error (.refused (.notCallable s)) := by
  obtain ⟨rfl, valid, free⟩ := named
  simp only [accept, valid, free, if_true, Bool.false_eq_true, if_false, bind, Except.bind]

theorem accept_of_not_registrable {s : Text} (unnamed : ¬ Registrable (.text s) s)
    (defaultPriority : Int) (o : Options) (offer : Offer) :
    ∃ r, accept defaultPriority (.text s) o offer = .error (.refused r) := by
  cases valid : Text.isName s with
  | false =>
    refine ⟨.invalidName (Text.quoted s), ?_⟩
    simp only [accept, valid, Bool.false_eq_true, if_false, bind, Except.bind]
  | true =>
    cases free : Directive.isReserved s with
    | false => exact absurd ⟨rfl, valid, free⟩ unnamed
    | true =>
      refine ⟨.reservedName s, ?_⟩
      simp only [accept, valid, free, if_true, bind, Except.bind]

theorem endsWith_accept_of_not_text (other : ∀ s, name ≠ .text s) :
    EndsWith (accept defaultPriority name o offer) e ↔
      name.HasLong ∧ e = .number .tooLongToWrite := by
  cases name with
  | text s => exact absurd rfl (other s)
  -- Nothing of the call is left behind the refusal of its name.
  | _ => exact endsWith_refusal_iff

theorem accept_eq_ok_iff {r : Registration} :
    accept defaultPriority name o offer = .ok r ↔ Registrable name r.name ∧
      offer = .handler r.handler ∧ o.Chooses defaultPriority r.forms r.priority := by
  constructor
  · intro taken
    obtain ⟨named, ⟨valid, free⟩, offered, -⟩ := accept_eq_ok taken
    have registrable : Registrable name r.name := ⟨named, valid, free⟩
    rw [offered, accept_of_registrable registrable, Options.chosen_eq_ok_iff] at taken
    exact ⟨registrable, offered, taken.2.2⟩
  · rintro ⟨named, rfl, chooses⟩
    rw [accept_of_registrable named, Options.chosen_eq_ok_iff]
    exact ⟨rfl, rfl, chooses⟩

theorem endsWith_accept_iff : EndsWith (accept defaultPriority name o offer) e ↔
    ((∀ s, name ≠ .text s) ∧ name.HasLong ∧ e = .number .tooLongToWrite) ∨
      ∃ s h, Registrable name s ∧ offer = .handler h ∧ o.Stray e := by
  by_cases other : ∀ s, name ≠ .text s
  · rw [endsWith_accept_of_not_text other, and_iff_right other]
    refine (or_iff_left ?_).symm
    rintro ⟨s, h, named, -⟩
    exact other s named.text
  · simp only [other, false_and, false_or]
    simp only [not_forall, not_not] at other
    obtain ⟨s, rfl⟩ := other
    by_cases named : Registrable (.text s) s
    · cases offer with
      | handler h =>
        rw [accept_of_registrable named, Options.endsWith_chosen_iff]
        simp only [Offer.handler.injEq]
        exact ⟨fun stray => ⟨s, h, named, rfl, stray⟩, fun ⟨_, _, _, _, stray⟩ => stray⟩
      | other v =>
        rw [accept_of_other named]
        simp [not_endsWith_refused]
    · obtain ⟨r, refused⟩ := accept_of_not_registrable named defaultPriority o offer
      rw [refused]
      refine iff_of_false (not_endsWith_refused r) ?_
      rintro ⟨s', h, named', -⟩
      obtain rfl := Value.text.inj named'.text
      exact named named'

end Accepted

section Registered

variable {registry next : Registry} {name : Value} {slot : Slot} {offer : Offer}
  {r : Registration} {e : AddError}

theorem add_eq_ok_iff {o : Options} : registry.add name o offer = .ok (r, next) ↔
    accept registry.defaultPriority name o offer = .ok r ∧
      next = { registry with registrations := put r registry.registrations } := by
  rw [add]
  cases accept registry.defaultPriority name o offer with
  | error e => simp [bind, Except.bind]
  | ok s =>
    simp only [bind, Except.bind, Except.ok.injEq, Prod.mk.injEq]
    constructor
    · rintro ⟨rfl, rfl⟩
      exact ⟨rfl, rfl⟩
    · rintro ⟨rfl, rfl⟩
      exact ⟨rfl, rfl⟩

theorem endsWith_add_iff {o : Options} : EndsWith (registry.add name o offer) e ↔
    EndsWith (accept registry.defaultPriority name o offer) e := by
  rw [add, endsWith_bind_iff]
  exact or_iff_left fun ⟨r, _, ends⟩ => not_endsWith_ok _ ends

theorem gives_none {entries : Entries} (gives : Options.Gives .null entries) : entries = [] :=
  (Except.ok.inj (Options.entries_of_gives gives)).symm

theorem chooses_none (defaultPriority : Int) :
    Options.Chooses {} defaultPriority .block defaultPriority :=
  ⟨[], .nothing rfl, .silent rfl rfl, .silent rfl⟩

theorem not_stray_none : ¬ Options.Stray {} e := by
  rintro (fails | ⟨gives, -, written, -⟩ | ⟨gives, -, written, -⟩)
  · exact nomatch Options.entries_of_fails fails
  · obtain rfl := gives_none gives
    exact nomatch written
  · obtain rfl := gives_none gives
    exact nomatch written

theorem admits_options_iff {defaultPriority : Int} {o : Options} :
    Admits defaultPriority name (.options o) offer r ↔
      accept defaultPriority name o offer = .ok r := by
  rw [accept_eq_ok_iff]
  constructor
  · rintro ⟨named, _, hands, chooses⟩
    cases hands
    exact ⟨named, rfl, chooses⟩
  · rintro ⟨named, rfl, chooses⟩
    exact ⟨named, o, .offered o _, chooses⟩

theorem admits_placed_iff {defaultPriority : Int} {h : Handler} :
    Admits defaultPriority name (.handler h) (.other .null) r ↔
      accept defaultPriority name {} (.handler h) = .ok r := by
  rw [accept_eq_ok_iff]
  constructor
  · rintro ⟨named, _, hands, chooses⟩
    cases hands
    exact ⟨named, rfl, chooses⟩
  · rintro ⟨named, same, chooses⟩
    obtain rfl := Offer.handler.inj same
    exact ⟨named, {}, .placed _, chooses⟩

theorem register_placed_of_ne {h : Handler} (other : offer ≠ .other .null) :
    registry.register name (.handler h) offer =
      accept registry.defaultPriority name {} offer >>= fun _ =>
        .error (.options (.notIterable "function")) := by
  rw [register]
  rintro rfl
  exact other rfl

theorem register_eq_ok_iff : registry.register name slot offer = .ok (r, next) ↔
    Admits registry.defaultPriority name slot offer r ∧
      next = { registry with registrations := put r registry.registrations } := by
  cases slot with
  | options o => rw [register, add_eq_ok_iff, admits_options_iff]
  | handler h =>
    by_cases none : offer = .other .null
    · subst none
      rw [register, add_eq_ok_iff, admits_placed_iff]
    · rw [register_placed_of_ne none]
      refine iff_of_false ?_ ?_
      · intro made
        obtain ⟨_, -, failed⟩ := exists_of_bind_eq_ok made
        exact nomatch failed
      · rintro ⟨⟨-, _, hands, -⟩, -⟩
        cases hands
        exact none rfl

theorem strays_options_iff {o : Options} : Strays name (.options o) offer e ↔
    ((∀ s, name ≠ .text s) ∧ name.HasLong ∧ e = .number .tooLongToWrite) ∨
      ∃ s h, Registrable name s ∧ offer = .handler h ∧ o.Stray e := by
  constructor
  · rintro (⟨other, long⟩ | ⟨_, first, _⟩ | ⟨named, hands, stray⟩)
    · exact .inl ⟨other, long, rfl⟩
    · exact nomatch first
    · cases hands
      exact .inr ⟨_, _, named, rfl, stray⟩
  · rintro (⟨other, long, rfl⟩ | ⟨s, h, named, rfl, stray⟩)
    · exact .name other long
    · exact .options named (.offered o h) stray

/-- A handler in the place of the options goes astray with a name, or beside another handler. -/
theorem strays_placed_iff {h : Handler} : Strays name (.handler h) offer e ↔
    ((∀ s, name ≠ .text s) ∧ name.HasLong ∧ e = .number .tooLongToWrite) ∨
      ∃ s g, Registrable name s ∧ offer = .handler g ∧ e = .options (.notIterable "function") := by
  constructor
  · rintro (⟨other, long⟩ | ⟨named, -, second⟩ | ⟨named, hands, stray⟩)
    · exact .inl ⟨other, long, rfl⟩
    · exact .inr ⟨_, _, named, second, rfl⟩
    · cases hands
      exact absurd stray not_stray_none
  · rintro (⟨other, long, rfl⟩ | ⟨s, g, named, second, rfl⟩)
    · exact .name other long
    · exact .twice named rfl second

theorem endsWith_register_iff :
    EndsWith (registry.register name slot offer) e ↔ Strays name slot offer e := by
  cases slot with
  | options o => rw [register, endsWith_add_iff, endsWith_accept_iff, strays_options_iff]
  | handler h =>
    rw [strays_placed_iff]
    by_cases none : offer = .other .null
    · subst none
      rw [register, endsWith_add_iff, endsWith_accept_iff]
      simp [not_stray_none]
    · rw [register_placed_of_ne none, endsWith_bind_iff, endsWith_accept_iff]
      simp only [not_stray_none, and_false, exists_false, or_false]
      refine or_congr_right ⟨?_, ?_⟩
      · rintro ⟨r, taken, ends⟩
        obtain ⟨named, offered, -⟩ := accept_eq_ok_iff.1 taken
        exact ⟨r.name, r.handler, named, offered, (Except.error.inj ends.1).symm⟩
      · rintro ⟨s, g, named, rfl, rfl⟩
        exact ⟨⟨s, .block, _, g⟩, accept_eq_ok_iff.2 ⟨named, rfl, chooses_none _⟩, rfl, nofun⟩

end Registered

/-- A call is decided, by a registration or a refusal, unless it strays, and then it ends with that
error. It gets a registration exactly if its name can be registered, a handler is given in its own
place or in that of the options, and the options give entries that choose forms and a priority; the
registration then takes its place in the registry. -/
theorem decided_register_iff (registry : Registry) (name : Value) (slot : Slot) (offer : Offer) :
    let outcome := registry.register name slot offer
    (Decided outcome ↔ ∀ e, ¬ Strays name slot offer e) ∧
      (∀ e, (outcome = .error e ∧ ∀ r, e ≠ .refused r) ↔ Strays name slot offer e) ∧
      ∀ r next, outcome = .ok (r, next) ↔
        Admits registry.defaultPriority name slot offer r ∧
          next = { registry with registrations := put r registry.registrations } := by
  intro outcome
  refine ⟨?_, fun e => endsWith_register_iff, fun r next => register_eq_ok_iff⟩
  simp only [outcome, decided_iff_not_endsWith, endsWith_register_iff]

/-- Options that are a word instead of a map, and forms that are a number of 4301 digits, ought to be
refused. The one is an error of reading pairs, the other an error of writing the number. -/
theorem not_decided_register :
    let h : Handler := ⟨.custom none, fun o => .ok (.text o.raw)⟩
    let call (given : Value) := register {} (.text "note") (.options { given }) (.handler h)
    call (.text "inline") = .error (.options (.wrongLength 0 1)) ∧
      ¬ Decided (call (.text "inline")) ∧
      call (.map [(.text "type", .int (10 ^ 4300))]) = .error (.number .tooLongToWrite) ∧
      ¬ Decided (call (.map [(.text "type", .int (10 ^ 4300))])) := by
  intro h call
  have named : Registrable (.text "note") "note" := ⟨rfl, by decide, by decide⟩
  have stays {given : Value} {e : AddError} (stray : Options.Stray { given } e) :
      call given = .error e ∧ ¬ Decided (call given) := by
    have ends : EndsWith (call given) e :=
      endsWith_register_iff.2 (.options named (.offered _ h) stray)
    exact ⟨ends.1, fun decided => decided_iff_not_endsWith.1 decided e ends⟩
  have through : (Value.text ['i']).items? = some [.text ['i']] := rfl
  have letter : Options.Misfit 0 (.text ['i']) (.wrongLength 0 1) := .length through (by simp)
  have word : Options.Fails (.text "inline") (.wrongLength 0 1) := .item nofun rfl .nil letter
  have long : (Value.int (10 ^ 4300)).HasLong := ⟨_, List.mem_singleton_self _, by decide +kernel⟩
  have written : Entries.at? "type" [(.text "type", .int (10 ^ 4300))] = some (.int (10 ^ 4300)) :=
    rfl
  obtain ⟨misread, undecided⟩ := stays (.entries word)
  obtain ⟨unwritten, undecided'⟩ := stays (.forms (.map _) rfl written long)
  exact ⟨misread, undecided, unwritten, undecided'⟩

end Registry
end PageDirectives
