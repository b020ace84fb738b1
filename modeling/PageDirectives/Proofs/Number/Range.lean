import Mathlib.Algebra.Order.Ring.Nat
import Mathlib.Tactic.Linarith
import Mathlib.Tactic.Positivity
import PageDirectives.Proofs.Value.Writing
/-!
The ranges of numbers. A whole number has a binary64 number next to it unless it lies at least half
a step of the last binade beyond the greatest of them; from there on it is refused. A binary64 number
that is whole has far fewer digits than are written, so no number of that kind is ever refused.
-/
namespace PageDirectives

theorem Integer.isLong_iff (n : Int) : IsLong n ↔ 10 ^ digitLimit ≤ n.natAbs := by
  rw [IsLong, digitsOf, ← Nat.not_le, Nat.length_toDigits_le_iff (by decide) (by decide),
    Nat.not_lt]

namespace Double

/-- Whether a number is one of binary64: mantissa and exponent lie in their ranges. -/
def IsBinary64 : Double → Prop
  | nan => True
  | infinite _ => True
  | finite _ mantissa exponent =>
    mantissa < 2 ^ 53 ∧ leastExponent ≤ exponent ∧ exponent ≤ greatestExponent

instance : (x : Double) → Decidable x.IsBinary64
  | nan => .isTrue trivial
  | infinite _ => .isTrue trivial
  | finite _ _ _ => inferInstanceAs (Decidable (_ ∧ _ ∧ _))

theorem scale_fst_div_lt {m k : Nat} {e : Int} (mantissa : m < 2 ^ 53) (exponent : e ≤ k)
    (few : 53 + k ≤ digitLimit) : (scale m e).1 / (scale m e).2 < 10 ^ digitLimit := by
  have whole : (scale m e).1 < 2 ^ 53 * 2 ^ k := by
    rw [scale]
    by_cases negative : e < 0
    · rw [if_pos negative]
      exact Nat.lt_of_lt_of_le mantissa (Nat.le_mul_of_pos_right _ (Nat.two_pow_pos k))
    · rw [if_neg negative]
      exact Nat.mul_lt_mul_of_lt_of_le mantissa
        (Nat.pow_le_pow_right (by decide) (by omega)) (Nat.two_pow_pos k)
  calc (scale m e).1 / (scale m e).2 ≤ (scale m e).1 := Nat.div_le_self _ _
    _ < 2 ^ 53 * 2 ^ k := whole
    _ ≤ 10 ^ 53 * 10 ^ k :=
      Nat.mul_le_mul (Nat.pow_le_pow_left (by decide) 53) (Nat.pow_le_pow_left (by decide) k)
    _ = 10 ^ (53 + k) := (Nat.pow_add 10 53 k).symm
    _ ≤ 10 ^ digitLimit := Nat.pow_le_pow_right (by decide) few

/-- A binary64 number that is whole is written. -/
theorem not_isLong_of_toInt? {x : Double} (binary : x.IsBinary64) {n : Int}
    (whole : x.toInt? = some n) : ¬ Integer.IsLong n := by
  cases x with
  | nan => exact nomatch whole
  | infinite s => exact nomatch whole
  | finite s m e =>
    obtain ⟨mantissa, -, exponent⟩ := binary
    have bound := scale_fst_div_lt (k := 971) mantissa exponent (by decide)
    generalize ratio : scale m e = r at bound
    rw [toInt?, ratio?, ratio] at whole
    obtain ⟨divides, same⟩ := Option.ite_none_right_eq_some.1 whole
    obtain rfl := Option.some.inj same
    rw [Integer.isLong_iff, Nat.not_le, Int.natAbs_ediv_of_dvd (Int.dvd_of_emod_eq_zero divides)]
    have size : (if s = true then -(r.1 : Int) else r.1).natAbs = r.1 := by cases s <;> simp
    rwa [size, Int.natAbs_natCast]

theorem exponentFor_one {n : Nat} (ne : n ≠ 0) : exponentFor n 1 = (n.log2 : Int) - 52 := by
  have least := Nat.log2_self_le ne
  have full : ∀ guess : Int, guess = n.log2 - 52 →
      ¬ (scale n (-guess)).1 < 1 * (scale n (-guess)).2 * leastFull := by
    rintro guess rfl
    rw [Nat.not_lt, scale, Nat.one_mul]
    by_cases large : -((n.log2 : Int) - 52) < 0
    · rw [if_pos large]
      calc 2 ^ (-((n.log2 : Int) - 52)).natAbs * 2 ^ 52 = 2 ^ n.log2 := by
            rw [← Nat.pow_add]
            congr 1
            omega
        _ ≤ n := least
    · rw [if_neg large]
      calc 1 * 2 ^ 52 = 2 ^ n.log2 * 2 ^ (-((n.log2 : Int) - 52)).natAbs := by
            rw [← Nat.pow_add, Nat.one_mul]
            congr 1
            omega
        _ ≤ n * 2 ^ (-((n.log2 : Int) - 52)).natAbs := Nat.mul_le_mul_right _ least
  have noDigits : (Nat.log2 1 : Int) = 0 := rfl
  rw [exponentFor]
  simp only [noDigits, Int.sub_zero, full _ rfl, if_false]
  rw [leastExponent]
  omega

/-- A ratio below a number of even halves rounds up to it from the midpoint on. -/
theorem roundRatio_eq_succ_iff {k numerator denominator : Nat} (odd : k % 2 = 1)
    (below : numerator < (k + 1) * denominator) :
    roundRatio numerator denominator = k + 1 ↔ (2 * k + 1) * denominator ≤ 2 * numerator := by
  have pos : 0 < denominator := Nat.pos_of_ne_zero fun zero => by simp [zero] at below
  have cut := Nat.div_add_mod numerator denominator
  have rest := Nat.mod_lt numerator pos
  have le : numerator / denominator ≤ k :=
    Nat.lt_succ_iff.1 ((Nat.div_lt_iff_lt_mul pos).2 below)
  simp only [roundRatio]
  generalize numerator / denominator = quotient at cut le ⊢
  generalize numerator % denominator = remainder at cut rest ⊢
  obtain rfl | less := Nat.eq_or_lt_of_le le
  · have halves : (2 * quotient + 1) * denominator ≤ 2 * numerator ↔
        denominator ≤ 2 * remainder := by
      rw [← cut]
      constructor <;> intro h <;> nlinarith
    rw [halves]
    split <;> omega
  · have short : ¬ (2 * k + 1) * denominator ≤ 2 * numerator := by
      have : denominator * (quotient + 1) ≤ denominator * k := Nat.mul_le_mul_left _ less
      nlinarith
    refine iff_of_false ?_ short
    split <;> omega

/-- The middle between the greatest number whose last place is 2 ^ (k + 1) and the next power of
two. -/
def middle (k : Nat) : Nat := (2 ^ 54 - 1) * 2 ^ k

theorem le_log2_of_middle_le {k n : Nat} (large : middle k ≤ n) : 53 + k ≤ n.log2 := by
  have digits : 2 ^ (53 + k) ≤ n := by
    refine le_trans ?_ large
    rw [Nat.pow_add]
    exact Nat.mul_le_mul_right _ (by decide)
  exact (Nat.le_log2 (Nat.ne_of_gt (lt_of_lt_of_le (Nat.two_pow_pos _) digits))).2 digits

theorem middle_le_of_lt_log2 {k n : Nat} (large : 53 + k < n.log2) : middle k ≤ n := by
  have ne : n ≠ 0 := by
    rintro rfl
    exact absurd large (by simp)
  calc middle k ≤ 2 ^ 54 * 2 ^ k := Nat.mul_le_mul_right _ (by decide)
    _ = 2 ^ (54 + k) := (Nat.pow_add 2 54 k).symm
    _ ≤ 2 ^ n.log2 := Nat.pow_le_pow_right (by decide) (by omega)
    _ ≤ n := Nat.log2_self_le ne

theorem roundRatio_eq_full_iff {k n : Nat} (digits : n.log2 = 53 + k) :
    roundRatio n (2 ^ (k + 1)) = 2 * leastFull ↔ middle k ≤ n := by
  have full : 2 * leastFull = (2 ^ 53 - 1) + 1 := rfl
  have below : n < (2 ^ 53 - 1 + 1) * 2 ^ (k + 1) := by
    calc n < 2 ^ (n.log2 + 1) := Nat.lt_log2_self
      _ = 2 ^ 53 * 2 ^ (k + 1) := by
        rw [← Nat.pow_add, digits]
        congr 1
  rw [full, roundRatio_eq_succ_iff (by decide) below, middle, Nat.pow_succ]
  omega

/-- From the middle on a number is rounded to the next power of two, or lies beyond it. -/
theorem middle_le_iff {k n : Nat} :
    middle k ≤ n ↔
      53 + k < n.log2 ∨ (n.log2 = 53 + k ∧ roundRatio n (2 ^ (k + 1)) = 2 * leastFull) := by
  constructor
  · intro large
    rcases Nat.eq_or_lt_of_le (le_log2_of_middle_le large) with digits | more
    · exact .inr ⟨digits.symm, (roundRatio_eq_full_iff digits.symm).2 large⟩
    · exact .inl more
  · rintro (more | ⟨digits, full⟩)
    · exact middle_le_of_lt_log2 more
    · exact (roundRatio_eq_full_iff digits).1 full

theorem scale_of_log2 {k n : Nat} (digits : n.log2 = 53 + k) :
    scale n (-((n.log2 : Int) - 52)) = (n, 2 ^ (k + 1)) := by
  have steps : (-((n.log2 : Int) - 52)).natAbs = k + 1 := by omega
  rw [scale, if_pos (by omega), steps]
  rfl

/-- The last binade is the only one in which rounding decides about the range. -/
theorem ofRatio_one_eq_infinite_iff {k : Nat} (top : greatestExponent = k + 1) (negative : Bool)
    {n : Nat} (ne : n ≠ 0) : (∃ s, ofRatio negative n 1 = infinite s) ↔ middle k ≤ n := by
  rw [middle_le_iff, ofRatio, if_neg ne, exponentFor_one ne]
  dsimp only
  rw [top]
  by_cases digits : n.log2 = 53 + k
  · rw [scale_of_log2 digits, Nat.one_mul]
    by_cases full : roundRatio n (2 ^ (k + 1)) = 2 * leastFull
    · rw [if_pos full]
      dsimp only
      rw [if_pos (by omega)]
      exact iff_of_true ⟨negative, rfl⟩ (.inr ⟨digits, full⟩)
    · rw [if_neg full]
      dsimp only
      rw [if_neg (by omega)]
      exact iff_of_false (fun ⟨_, same⟩ => nomatch same)
        fun h => h.elim (by omega) fun h => full h.2
  · simp only [digits, false_and, or_false]
    split
    all_goals
      by_cases large : 53 + k < n.log2
      · rw [if_pos (by omega)]
        exact iff_of_true ⟨negative, rfl⟩ large
      · rw [if_neg (by omega)]
        exact iff_of_false (fun ⟨_, same⟩ => nomatch same) large

/-- A whole number is refused exactly if it lies at or beyond the middle between the greatest
binary64 number and the next power of two. -/
theorem ofInt_eq_error_iff (n : Int) (e : NumberError) :
    ofInt n = .error e ↔ e = .tooLargeForFloat ∧ middle 970 ≤ n.natAbs := by
  have fits : ofInt n = .error e ↔
      e = .tooLargeForFloat ∧ ∃ s, ofRatio (decide (n < 0)) n.natAbs 1 = infinite s := by
    rw [ofInt]
    cases ofRatio (decide (n < 0)) n.natAbs 1 with
    | infinite s => simp [eq_comm]
    | nan => simp
    | finite s m e => simp
  rw [fits]
  by_cases zero : n.natAbs = 0
  · rw [zero]
    refine and_congr_right fun _ => iff_of_false (fun ⟨_, same⟩ => nomatch same) fun large => ?_
    have digits := le_log2_of_middle_le large
    rw [Nat.log2_zero] at digits
    omega
  · rw [ofRatio_one_eq_infinite_iff (k := 970) rfl _ zero]

end Double
end PageDirectives
