import PageDirectives.Condition
import PageDirectives.Proofs.Number.Range
/-!
What a condition cannot decide. A value is compared as text or as a number, and both ways end at a
whole number that is too large for them: it is refused as text beyond the digit limit, wherever it
lies in the value, and as a number beyond the range of binary64. Nothing else refuses a condition. A
value that is no number at all is neither greater nor smaller than anything.
-/
namespace PageDirectives

namespace Value

mutual

/-- The binary64 numbers in a value. -/
def doubles : Value → List Double
  | float x => [x]
  | pair first second => doubles first ++ doubles second
  | list items => doublesOf items
  | set items => doublesOf items
  | map entries => entryDoubles entries
  | _ => []

def doublesOf : List Value → List Double
  | [] => []
  | v :: rest => doubles v ++ doublesOf rest

def entryDoubles : List (Value × Value) → List Double
  | [] => []
  | (k, v) :: rest => doubles k ++ (doubles v ++ entryDoubles rest)

end

/-- All floats in a value lie in the ranges of binary64. -/
def HasBinary64 (v : Value) : Prop := ∀ x ∈ v.doubles, x.IsBinary64

end Value

theorem Entries.exists_of_get? {key v : Value} {entries : Entries}
    (h : entries.get? key = some v) : ∃ k, (k, v) ∈ entries := by
  induction entries with
  | nil => exact nomatch h
  | cons entry rest ih =>
    rw [get?] at h
    split at h
    · exact ⟨entry.1, by simp [← Option.some.inj h]⟩
    · obtain ⟨k, mem⟩ := ih h
      exact ⟨k, List.mem_cons_of_mem entry mem⟩

namespace Condition

/-- The text of an item of a list or a pair, where null is nothing. -/
def itemText (v : Value) : Except NumberError Text := if isNull v then .ok [] else asText v

theorem asText_pair (first second : Value) :
    asText (.pair first second) = itemText first >>= fun a =>
      itemText second >>= fun b => .ok (Text.join [','] [a, b]) := by
  rw [asText, itemText, itemText]
  cases isNull first <;> cases isNull second <;> rfl

theorem asTexts_cons (v : Value) (rest : List Value) :
    asTexts (v :: rest) = itemText v >>= fun text =>
      asTexts rest >>= fun others => .ok (text :: others) := by
  rw [asTexts, itemText]
  cases isNull v <;> rfl

theorem itemText_refusedIf {v : Value}
    (h : RefusedIf (∃ n ∈ v.wholes, Integer.IsLong n) (asText v)) :
    RefusedIf (∃ n ∈ v.wholes, Integer.IsLong n) (itemText v) := by
  cases v with
  | null => exact RefusedIf.of_ok (by simp [Value.wholes])
  | _ => exact h

theorem asText_float_refusedIf {x : Double} (binary : x.IsBinary64) :
    RefusedIf False (asText (.float x)) := by
  cases whole : x.toInt? with
  | none =>
    have write : asText (.float x) = .ok (if x = .nan then "NaN" else x.write) := by
      cases x <;> simp [asText, whole]
    rw [write]
    exact RefusedIf.of_ok not_false
  | some n =>
    have write : asText (.float x) = Integer.write n := by
      cases x with
      | nan => exact nomatch whole
      | infinite s => exact nomatch whole
      | finite s m e => simp only [asText, whole]
    have short := (Value.write_refusedIf n).resolve_left fun long =>
      Double.not_isLong_of_toInt? binary whole long.1
    rw [write]
    exact .inr ⟨not_false, short.2⟩

mutual

theorem asText_refusedIf : ∀ v : Value, v.HasBinary64 →
    RefusedIf (∃ n ∈ v.wholes, Integer.IsLong n) (asText v)
  | .float x, binary => by
    have := asText_float_refusedIf (binary x (List.mem_singleton_self x))
    simpa [Value.wholes] using this
  | .pair first second, binary => by
    rw [Value.HasBinary64, Value.doubles, List.forall_mem_append] at binary
    rw [Value.wholes, asText_pair]
    simp only [List.mem_append, or_and_right, exists_or]
    exact (itemText_refusedIf (asText_refusedIf first binary.1)).bind fun _ =>
      (itemText_refusedIf (asText_refusedIf second binary.2)).bind_pure _
  | .list items, binary => by
    rw [Value.wholes, asText]
    exact (asTexts_refusedIf items binary).bind_pure _
  | .null, _ | .bool _, _ => by
    rw [asText]
    exact RefusedIf.of_ok (by simp [Value.wholes])
  | .int n, _ | .text s, _ | .bytes bs, _ | .date d, _ | .dateTime t, _ | .set items, _
  | .map entries, _ => by
    rw [asText]
    · exact Value.display_refusedIf _
    all_goals simp

theorem asTexts_refusedIf : ∀ items : List Value,
    (∀ x ∈ Value.doublesOf items, x.IsBinary64) →
      RefusedIf (∃ n ∈ Value.wholesOf items, Integer.IsLong n) (asTexts items)
  | [], _ => RefusedIf.of_ok (by simp [Value.wholesOf])
  | v :: rest, binary => by
    rw [Value.doublesOf, List.forall_mem_append] at binary
    rw [Value.wholesOf, asTexts_cons]
    simp only [List.mem_append, or_and_right, exists_or]
    exact (itemText_refusedIf (asText_refusedIf v binary.1)).bind fun _ =>
      (asTexts_refusedIf rest binary.2).bind_pure _

end

variable {page : Entries}

theorem operandText_refusedIf (binary : ∀ entry ∈ page, entry.2.HasBinary64) (key : Text) :
    RefusedIf (∃ v, page.at? key = some v ∧ v.HasLong) (operandText (look page key)) := by
  rw [look]
  cases found : page.at? key with
  | none =>
    rw [Operand.ofEntry, operandText]
    exact RefusedIf.of_ok (by simp)
  | some v =>
    obtain ⟨k, mem⟩ := Entries.exists_of_get? found
    rw [Operand.ofEntry, operandText]
    simpa [Value.HasLong] using asText_refusedIf v (binary (k, v) mem)

theorem operandNumber_eq_error_iff {key : Text} {e : NumberError} :
    operandNumber (look page key) = .error e ↔ e = .tooLargeForFloat ∧
      ∃ n, page.at? key = some (.int n) ∧ Double.middle 970 ≤ n.natAbs := by
  rw [look]
  cases page.at? key with
  | none => simp [Operand.ofEntry, operandNumber]
  | some v =>
    cases v with
    | int n => simpa [Operand.ofEntry, operandNumber] using Double.ofInt_eq_error_iff n e
    | _ => simp [Operand.ofEntry, operandNumber]

/-- What page data has under a key can be compared with numbers. -/
def Comparable : Option Value → Prop
  | some .null => True
  | some (.bool _) => True
  | some (.int _) => True
  | some (.float x) => x ≠ .nan
  | some (.text s) => textNumber s ≠ .nan
  | _ => False

theorem operandNumber_of_not_comparable {key : Text} (other : ¬ Comparable (page.at? key)) :
    operandNumber (look page key) = .ok .nan := by
  rw [look]
  cases found : page.at? key with
  | none => rfl
  | some v =>
    rw [found] at other
    cases v with
    | null => exact absurd trivial other
    | bool => exact absurd trivial other
    | int => exact absurd trivial other
    | float x =>
      obtain rfl := not_not.1 other
      rfl
    | text s => exact congrArg Except.ok (not_not.1 other)
    | _ => rfl

theorem not_lt_nan (x : Double) : x.lt .nan = false := by cases x <;> rfl

theorem not_nan_lt (x : Double) : Double.nan.lt x = false := rfl

/-- A test is refused on page data, for a reason. -/
def Test.Refused (page : Entries) : Test → NumberError → Prop
  | .equal key _, e | .unequal key _, e =>
    e = .tooLongToWrite ∧ ∃ v, page.at? key = some v ∧ v.HasLong
  | .above key _, e | .below key _, e =>
    e = .tooLargeForFloat ∧ ∃ n, page.at? key = some (.int n) ∧ Double.middle 970 ≤ n.natAbs
  | _, _ => False

theorem map_eq_error_iff {α β : Type} {x : Except NumberError α} {f : α → β} {e : NumberError} :
    x.map f = .error e ↔ x = .error e := by
  cases x <;> simp [Except.map]

theorem Test.holds_eq_error_iff (binary : ∀ entry ∈ page, entry.2.HasBinary64) (test : Test)
    (e : NumberError) : test.holds page = .error e ↔ test.Refused page e := by
  have refused (key : Text) : operandText (look page key) = .error e ↔
      e = .tooLongToWrite ∧ ∃ v, page.at? key = some v ∧ v.HasLong := by
    rcases operandText_refusedIf binary key with ⟨long, error⟩ | ⟨short, t, ok⟩
    · rw [error, Except.error.injEq, eq_comm]
      exact (and_iff_left long).symm
    · simp [ok, short]
  cases test with
  | equal key expected => exact map_eq_error_iff.trans (refused key)
  | unequal key expected => exact map_eq_error_iff.trans (refused key)
  | above key limit => exact map_eq_error_iff.trans operandNumber_eq_error_iff
  | below key limit => exact map_eq_error_iff.trans operandNumber_eq_error_iff
  | _ => simp [holds, Refused]

/-- A condition is decided unless its test is refused. That happens exactly if it compares a value
as text that holds a whole number beyond the digit limit, or as a number a whole number beyond the
range of binary64. What cannot be compared as a number is neither above nor below a limit. -/
theorem holds_eq_ok_iff (binary : ∀ entry ∈ page, entry.2.HasBinary64) (text : Text) :
    let test := Test.ofText text
    ((∃ b, holds text page = .ok b) ↔ ∀ e, ¬ test.Refused page e) ∧
      (∀ e, holds text page = .error e ↔ test.Refused page e) ∧
      ∀ key limit, test = .above key limit ∨ test = .below key limit →
        (¬ Comparable (page.at? key) → holds text page = .ok false) ∧
          (textNumber limit = .nan → holds text page ≠ .ok true) := by
  intro test
  have run : holds text page = test.holds page := rfl
  have error := test.holds_eq_error_iff binary
  rw [run]
  refine ⟨?_, error, fun key limit shape => ⟨fun other => ?_, fun nan => ?_⟩⟩
  · simp only [← error]
    cases test.holds page <;> simp
  · have number := operandNumber_of_not_comparable other
    rcases shape with shape | shape <;> rw [shape, Test.holds, number]
    · exact congrArg Except.ok (not_lt_nan (textNumber limit))
    · exact congrArg Except.ok (not_nan_lt (textNumber limit))
  · rcases shape with shape | shape <;> rw [shape, Test.holds, nan] <;>
      cases operandNumber (look page key) with
      | error e => exact fun same => nomatch same
      | ok x => simp [Except.map, not_lt_nan, not_nan_lt]

/-- A number of 401 digits can be compared as text and not as a number, and one of 4301 digits that
lies in a list makes the list neither a text nor a number. -/
theorem holds_eq_ok_iff_of_large_numbers :
    let page : Entries := [(.text "count", .int (10 ^ 400)),
      (.text "sizes", .list [.float (.finite false 5 (-1)), .list [.int (10 ^ digitLimit)]])]
    (∀ entry ∈ page, entry.2.HasBinary64) ∧
      (∃ b, holds "count == 3" page = .ok b) ∧
      holds "count > 3" page = .error .tooLargeForFloat ∧
      holds "sizes != 3" page = .error .tooLongToWrite ∧
      holds "sizes < 3" page = .ok false := by
  intro page
  have binary : ∀ entry ∈ page, entry.2.HasBinary64 := by
    simp only [page, Value.HasBinary64, List.forall_mem_cons, Value.doubles, Value.doublesOf]
    decide
  obtain ⟨decided, -, -⟩ := holds_eq_ok_iff binary "count == 3"
  obtain ⟨-, refused, -⟩ := holds_eq_ok_iff binary "count > 3"
  obtain ⟨-, refused', -⟩ := holds_eq_ok_iff binary "sizes != 3"
  obtain ⟨-, -, compared⟩ := holds_eq_ok_iff binary "sizes < 3"
  have shape : Test.ofText "count == 3" = .equal "count" "3" := by decide
  have shape' : Test.ofText "sizes != 3" = .unequal "sizes" "3" := by decide
  have long : Integer.IsLong (10 ^ digitLimit) := (Integer.isLong_iff _).2 (by simp)
  have found : page.at? "count" = some (.int (10 ^ 400)) := rfl
  refine ⟨binary, decided.2 fun e => ?_, (refused _).2 ?_, (refused' _).2 ?_,
    (compared "sizes" " 3" (by decide)).1 not_false⟩
  · rw [shape]
    rintro ⟨-, v, same, n, mem, large⟩
    obtain rfl := Option.some.inj (found.symm.trans same)
    rw [Value.wholes, List.mem_singleton] at mem
    subst mem
    revert large
    decide +kernel
  · have shape : Test.ofText "count > 3" = .above "count" " 3" := by decide
    rw [shape]
    exact ⟨rfl, 10 ^ 400, found, by decide +kernel⟩
  · rw [shape']
    exact ⟨rfl, _, rfl, 10 ^ digitLimit, by simp [Value.wholes, Value.wholesOf], long⟩

/-- Where a number is too large for binary64 a comparison has no result at all. -/
theorem holds_of_large_number :
    let page : Entries := [(.text "count", .int (10 ^ 400))]
    holds "count > 3" page = .error .tooLargeForFloat ∧ ¬ ∃ b, holds "count > 3" page = .ok b := by
  intro page
  have large : holds "count > 3" page = .error .tooLargeForFloat := by decide +kernel
  refine ⟨large, ?_⟩
  rw [large]
  exact fun ⟨_, same⟩ => nomatch same

end Condition
end PageDirectives
