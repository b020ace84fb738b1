import PageDirectives.Proofs.Directive.Registry
import PageDirectives.Proofs.Value.Writing
/-!
Which values say a word for forms. What is read is the text of a value in small letters, so any
value might do. Only texts do: the text of every other value is "None" or holds a digit or a sign
that stands in no such word.
-/
namespace PageDirectives

theorem Text.toLower_mem_lower {c : Char} {text : Text} (ascii : c.toNat < 128) (mem : c ∈ text) :
    c.toLower ∈ lower text := by
  have each (before : Text) : c.toLower ∈ lowerFrom before text := by
    induction text generalizing before with
    | nil => exact absurd mem List.not_mem_nil
    | cons d rest ih =>
      rw [lowerFrom, List.mem_append]
      rcases List.mem_cons.1 mem with rfl | later
      · have sigma : ¬ (c == 'Σ') = true := by
          rintro same
          rw [eq_of_beq same] at ascii
          exact absurd ascii (by decide)
        rw [if_neg sigma, lowerChar, if_pos ascii]
        exact .inl (List.mem_singleton_self _)
      · exact .inr (ih later (d :: before))
  exact each []

namespace Forms

theorem mem_all (f : Forms) : f ∈ [inline, block, both] := by cases f <;> decide

theorem ofWord?_eq_some_iff {text : Text} {f : Forms} : ofWord? text = some f ↔ text = f.word := by
  constructor
  · intro found
    have same : (f.word == text) = true := by simpa using List.find?_some found
    exact (eq_of_beq same).symm
  · rintro rfl
    cases f <;> decide

/-- A character of which the small letter stands in no word for forms. -/
def IsForeign (c : Char) : Prop :=
  c.toNat < 128 ∧ ∀ f ∈ [inline, block, both], c.toLower ∉ f.word

instance (c : Char) : Decidable (IsForeign c) := inferInstanceAs (Decidable (_ ∧ _))

theorem isForeign_of_isDigit {c : Char} (digit : c.isDigit = true) : IsForeign c := by
  obtain ⟨low, high⟩ : 48 ≤ c.toNat ∧ c.toNat ≤ 57 := by
    simpa [Char.isDigit, UInt32.le_iff_toNat_le] using digit
  obtain ⟨n, among, rfl⟩ : ∃ n ∈ List.range 10, c = Char.ofNat (48 + n) :=
    ⟨c.toNat - 48, List.mem_range.2 (by omega), by rw [Nat.add_sub_cancel' low, Char.ofNat_toNat]⟩
  revert n
  decide

theorem lower_ne_word {text : Text} (foreign : ∃ c ∈ text, IsForeign c) (f : Forms) :
    Text.lower text ≠ f.word := by
  obtain ⟨c, mem, ascii, absent⟩ := foreign
  intro same
  exact absent f f.mem_all (same ▸ Text.toLower_mem_lower ascii mem)

end Forms

open Forms

theorem Integer.exists_isForeign {n : Int} {text : Text} (written : write n = .ok text) :
    ∃ c ∈ text, IsForeign c := by
  have digits : ∃ c ∈ digitsOf n.natAbs, IsForeign c := by
    obtain ⟨c, mem⟩ := List.exists_mem_of_ne_nil _ (Nat.toDigits_ne_nil (n := n.natAbs) (b := 10))
    exact ⟨c, mem, isForeign_of_isDigit (Nat.isDigit_of_mem_toDigits (by decide) (by decide) mem)⟩
  obtain ⟨c, mem, foreign⟩ := digits
  rw [write] at written
  split at written
  · obtain rfl := Except.ok.inj written
    refine ⟨c, ?_, foreign⟩
    rw [decimal]
    split
    · exact List.mem_cons_of_mem _ mem
    · exact mem
  · cases written

/-- A positive number has a point or the sign of an exponent. -/
theorem Shortest.exists_isForeign (layout : DecimalLayout) (digits : Text) (point : Int) :
    ∃ c ∈ Shortest.write layout digits point, IsForeign c := by
  rw [Shortest.write]
  split
  · refine ⟨'.', ?_, by decide⟩
    split <;> simp
  · refine ⟨if point - 1 < 0 then '-' else '+', ?_, ?_⟩
    · simp
    · split <;> decide

theorem Double.exists_isForeign (x : Double) : ∃ c ∈ x.write, IsForeign c := by
  cases x with
  | nan => exact ⟨'a', by decide, by decide⟩
  | infinite negative => exact ⟨'f', by cases negative <;> decide, by decide⟩
  | finite negative mantissa exponent =>
    obtain ⟨c, mem, foreign⟩ : ∃ c ∈ (if mantissa = 0 then ['0', '.', '0'] else
        Shortest.write layout (Shortest.split (Shortest.decimal mantissa exponent)).1
          (Shortest.split (Shortest.decimal mantissa exponent)).2), IsForeign c := by
      split
      · exact ⟨'.', by simp, by decide⟩
      · exact Shortest.exists_isForeign layout _ _
    exact ⟨c, List.mem_append_right _ mem, foreign⟩

theorem Date.exists_isForeign (d : Date) : ∃ c ∈ d.iso, IsForeign c :=
  ⟨'-', by simp [Date.iso], by decide⟩

namespace Value

/-- The text of a value that is neither a text nor null holds a character of no word for forms. -/
theorem exists_isForeign {v : Value} {text : Text} (other : ∀ s, v ≠ .text s) (filled : v ≠ .null)
    (shown : v.display = .ok text) : ∃ c ∈ text, IsForeign c := by
  cases v with
  | text s => exact absurd rfl (other s)
  | null => exact absurd rfl filled
  | bool b =>
    obtain rfl := Except.ok.inj shown
    cases b
    · exact ⟨'F', by decide, by decide⟩
    · exact ⟨'r', by decide, by decide⟩
  | int n => exact Integer.exists_isForeign shown
  | float x =>
    obtain rfl := Except.ok.inj shown
    exact x.exists_isForeign
  | bytes bs =>
    obtain rfl := Except.ok.inj shown
    refine ⟨Text.quoteFor (bs.map fun b => Char.ofNat b.toNat), by simp [Text.quotedBytes], ?_⟩
    rw [Text.quoteFor]
    split <;> decide
  | date d =>
    obtain rfl := Except.ok.inj shown
    exact d.exists_isForeign
  | dateTime t =>
    obtain rfl := Except.ok.inj shown
    obtain ⟨c, mem, foreign⟩ := t.date.exists_isForeign
    exact ⟨c, by simp [DateTime.isoWith, mem], foreign⟩
  | pair first second =>
    obtain ⟨a, -, shown⟩ := Registry.exists_of_bind_eq_ok shown
    obtain ⟨b, -, shown⟩ := Registry.exists_of_bind_eq_ok shown
    obtain rfl := Except.ok.inj shown
    exact ⟨'(', List.mem_cons_self, by decide⟩
  | list items =>
    obtain ⟨texts, -, shown⟩ := Registry.exists_of_bind_eq_ok shown
    obtain rfl := Except.ok.inj shown
    exact ⟨'[', List.mem_cons_self, by decide⟩
  | set items =>
    cases items with
    | nil =>
      obtain rfl := Except.ok.inj shown
      exact ⟨'(', by decide, by decide⟩
    | cons item rest =>
      obtain ⟨texts, -, shown⟩ := Registry.exists_of_bind_eq_ok shown
      obtain rfl := Except.ok.inj shown
      exact ⟨'\x7b', List.mem_cons_self, by decide⟩
  | map entries =>
    obtain ⟨texts, -, shown⟩ := Registry.exists_of_bind_eq_ok shown
    obtain rfl := Except.ok.inj shown
    exact ⟨'\x7b', List.mem_cons_self, by decide⟩

/-- A value of which the small letters say a word for forms is a text. -/
theorem eq_text_of_lower_display {v : Value} {text : Text} {f : Forms}
    (shown : v.display = .ok text) (named : Text.lower text = f.word) : v = .text text := by
  by_cases other : ∀ s, v ≠ .text s
  · exfalso
    by_cases filled : v = .null
    · subst filled
      obtain rfl := Except.ok.inj shown
      revert named
      cases f <;> decide
    · exact lower_ne_word (exists_isForeign other filled shown) f named
  · simp only [not_forall, not_not] at other
    obtain ⟨s, rfl⟩ := other
    rw [Except.ok.inj shown]

/-- The forms that a value chooses are those of which it holds the word, as a text in letters of any
case. -/
theorem bind_ofWord?_eq_some_iff {v : Value} {f : Forms} :
    (v.display.toOption.map Text.lower).bind ofWord? = some f ↔
      ∃ s, v = .text s ∧ Text.lower s = f.word := by
  constructor
  · intro read
    obtain ⟨small, lowered, named⟩ := Option.bind_eq_some_iff.1 read
    obtain ⟨text, shown, rfl⟩ := Option.map_eq_some_iff.1 lowered
    rw [ofWord?_eq_some_iff] at named
    cases displayed : v.display with
    | error e =>
      rw [displayed] at shown
      exact nomatch shown
    | ok t =>
      rw [displayed] at shown
      obtain rfl : t = text := Option.some.inj shown
      exact ⟨t, eq_text_of_lower_display displayed named, named⟩
  · rintro ⟨s, rfl, named⟩
    exact ofWord?_eq_some_iff.2 named

/-- The Kelvin sign is a capital of the letter k. -/
example : Text.lower ("BLOC".toList ++ [Char.ofNat 0x212A]) = Forms.block.word := by decide +kernel

end Value
end PageDirectives
