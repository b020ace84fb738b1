import PageDirectives.Directive.Failure
/-!
Which values have a text: all of them but those that hold a whole number with more digits than are
written. However deep such a number lies, it is the only thing that keeps a value from being written,
and a failure that carries the value from having a wording.
-/
namespace PageDirectives

/-- A whole number with more digits than are written. -/
def Integer.IsLong (n : Int) : Prop := digitLimit < (digitsOf n.natAbs).length

instance (n : Int) : Decidable (Integer.IsLong n) := inferInstanceAs (Decidable (_ < _))

namespace Value

mutual

/-- The whole numbers in a value. -/
def wholes : Value → List Int
  | int n => [n]
  | pair first second => wholes first ++ wholes second
  | list items => wholesOf items
  | set items => wholesOf items
  | map entries => entryWholes entries
  | _ => []

def wholesOf : List Value → List Int
  | [] => []
  | v :: rest => wholes v ++ wholesOf rest

def entryWholes : List (Value × Value) → List Int
  | [] => []
  | (k, v) :: rest => wholes k ++ (wholes v ++ entryWholes rest)

end

def HasLong (v : Value) : Prop := ∃ n ∈ v.wholes, Integer.IsLong n

instance (v : Value) : Decidable v.HasLong :=
  inferInstanceAs (Decidable (∃ n ∈ v.wholes, Integer.IsLong n))

end Value

/-- A text is refused on a condition, for its length, and is there otherwise. -/
def RefusedIf {α : Type} (p : Prop) (x : Except NumberError α) : Prop :=
  (p ∧ x = .error .tooLongToWrite) ∨ (¬ p ∧ ∃ a, x = .ok a)

namespace RefusedIf

variable {α β : Type} {p q : Prop} {x : Except NumberError α} {f : α → Except NumberError β}

theorem of_ok {a : α} (h : ¬ p) : RefusedIf p (.ok a : Except NumberError α) := .inr ⟨h, a, rfl⟩

theorem bind (hx : RefusedIf p x) (hf : ∀ a, RefusedIf q (f a)) : RefusedIf (p ∨ q) (x >>= f) := by
  rcases hx with ⟨hp, rfl⟩ | ⟨hp, a, rfl⟩
  · exact .inl ⟨.inl hp, rfl⟩
  · rcases hf a with ⟨hq, error⟩ | ⟨hq, b, ok⟩
    · exact .inl ⟨.inr hq, error⟩
    · exact .inr ⟨not_or.2 ⟨hp, hq⟩, b, ok⟩

theorem map (hx : RefusedIf p x) (g : α → β) : RefusedIf p (x.map g) := by
  rcases hx with ⟨hp, rfl⟩ | ⟨hp, a, rfl⟩
  · exact .inl ⟨hp, rfl⟩
  · exact .inr ⟨hp, g a, rfl⟩

theorem bind_pure (hx : RefusedIf p x) (g : α → β) : RefusedIf p (x >>= fun a => .ok (g a)) := by
  have := hx.bind (q := False) fun a => of_ok (a := g a) not_false
  rwa [or_false] at this

theorem exists_ok_iff (hx : RefusedIf p x) : (∃ a, x = .ok a) ↔ ¬ p := by
  rcases hx with ⟨hp, rfl⟩ | ⟨hp, a, rfl⟩
  · simp [hp]
  · exact iff_of_true ⟨a, rfl⟩ hp

end RefusedIf

namespace Value

theorem write_refusedIf (n : Int) : RefusedIf (Integer.IsLong n) (Integer.write n) := by
  rw [Integer.write, Integer.IsLong]
  split
  · next short => exact RefusedIf.of_ok (Nat.not_lt.2 short)
  · next long => exact .inl ⟨Nat.not_le.1 long, rfl⟩

mutual

theorem literal_refusedIf : ∀ v : Value, RefusedIf (∃ n ∈ v.wholes, Integer.IsLong n) v.literal
  | int n => by
    rw [wholes, literal]
    simpa using write_refusedIf n
  | pair first second => by
    rw [wholes, literal]
    simp only [List.mem_append, or_and_right, exists_or]
    exact (literal_refusedIf first).bind fun _ => (literal_refusedIf second).bind_pure _
  | list items => by
    rw [wholes, literal]
    exact (literals_refusedIf items).bind_pure _
  | set [] => RefusedIf.of_ok (by simp [wholes, wholesOf])
  | set (v :: items) => by
    rw [wholes]
    exact (literals_refusedIf (v :: items)).bind_pure _
  | map entries => by
    rw [wholes, literal]
    exact (entryLiterals_refusedIf entries).bind_pure _
  | null | bool _ | float _ | text _ | bytes _ | date _ | dateTime _ =>
    RefusedIf.of_ok (by simp [wholes])

theorem literals_refusedIf : ∀ items : List Value,
    RefusedIf (∃ n ∈ wholesOf items, Integer.IsLong n) (literals items)
  | [] => RefusedIf.of_ok (by simp [wholesOf])
  | v :: rest => by
    rw [wholesOf, literals]
    simp only [List.mem_append, or_and_right, exists_or]
    exact (literal_refusedIf v).bind fun _ => (literals_refusedIf rest).bind_pure _

theorem entryLiterals_refusedIf : ∀ entries : List (Value × Value),
    RefusedIf (∃ n ∈ entryWholes entries, Integer.IsLong n) (entryLiterals entries)
  | [] => RefusedIf.of_ok (by simp [entryWholes])
  | (k, v) :: rest => by
    rw [entryWholes, entryLiterals]
    simp only [List.mem_append, or_and_right, exists_or]
    exact (literal_refusedIf k).bind fun _ => (literal_refusedIf v).bind fun _ =>
      (entryLiterals_refusedIf rest).bind_pure _

end

theorem display_refusedIf (v : Value) : RefusedIf v.HasLong v.display := by
  cases v with
  | text | date | dateTime => exact RefusedIf.of_ok (by simp [HasLong, wholes])
  | _ => exact literal_refusedIf _

end Value

namespace Failure

/-- A failure carries a value that has no text. -/
def HasLong : Failure → Prop
  | reported what => what.HasLong
  | absentKey key => key.HasLong
  | timedOut what => what.HasLong
  | _ => False

instance : (failure : Failure) → Decidable failure.HasLong
  | reported what => inferInstanceAs (Decidable what.HasLong)
  | absentKey key => inferInstanceAs (Decidable key.HasLong)
  | timedOut what => inferInstanceAs (Decidable what.HasLong)
  | readOnlyPage | notIterable _ | notComparable _ | notAwaitable | number _ =>
    inferInstanceAs (Decidable False)

theorem message_refusedIf (failure : Failure) : RefusedIf failure.HasLong failure.message := by
  cases failure with
  | reported what => exact what.display_refusedIf
  | absentKey key => exact key.literal_refusedIf
  | timedOut what => exact what.display_refusedIf
  | _ => exact RefusedIf.of_ok not_false

end Failure
end PageDirectives
