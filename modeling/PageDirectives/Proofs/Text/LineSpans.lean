import Mathlib.Data.List.Pairwise
import PageDirectives.Proofs.Text.LineSearch
/-!
Where the forms lie that a search from line to line finds. Each takes whole lines, starts where the
line stands at which it is read, and a line feed at least stands between two of them. A line that is
read lies in one of them, and in only one if it is read whatever stands behind it. A search of lines
is one of those in front and then of the rest, as far as no form of the front reaches into the rest.
-/
namespace PageDirectives

theorem Text.length_afterLine_cons (line : Text) (later : List Text) :
    (afterLine (line :: later)).length = line.length + 1 + (afterLine later).length := by
  simp only [afterLine, List.flatMap_cons, List.length_append, List.length_cons]

theorem Text.length_beforeLine_drop (line : Text) (later : List Text) (more : Nat) :
    (beforeLine (line :: later)).length =
      (ofLines (line :: later.take more)).length + 1 +
        (beforeLine (later.drop more)).length := by
  have cut := beforeLine_append (line :: later.take more) (later.drop more)
  rw [List.cons_append, List.take_append_drop,
    beforeLine_eq (List.cons_ne_nil line (later.take more))] at cut
  rw [cut, List.length_append, List.length_append, List.length_singleton]

/-- A line of a text, with the offset at which it stands. -/
def Text.LineAt (text : Text) (offset : Nat) (line : Text) : Prop :=
  ∃ before later, lines text = before ++ line :: later ∧ offset = (beforeLine before).length

theorem Text.LineAt.free {text line : Text} {offset : Nat} (h : LineAt text offset line) :
    '\n' ∉ line := by
  obtain ⟨before, later, cut, -⟩ := h
  refine areLines_lines text line ?_
  rw [cut]
  exact List.mem_append_right _ List.mem_cons_self

/-- One line at most stands at an offset. -/
theorem Text.LineAt.unique {text line line' : Text} {offset : Nat} (h : LineAt text offset line)
    (h' : LineAt text offset line') : line = line' := by
  obtain ⟨before, later, cut, rfl⟩ := h
  obtain ⟨before', later', cut', same⟩ := h'
  -- the longer of two fronts would have a line feed more
  have longer (lines : List Text) (line : Text) (more : List Text)
      (eq : (beforeLine lines).length = (beforeLine (lines ++ line :: more)).length) : False := by
    rw [beforeLine_append, List.length_append, beforeLine_cons, List.length_append,
      List.length_cons] at eq
    omega
  rcases List.append_eq_append_iff.1 (cut.symm.trans cut') with
    ⟨between, rfl, behind⟩ | ⟨between, rfl, behind⟩
  · cases between with
    | nil => exact (List.cons.inj behind).1
    | cons first others => exact (longer before first others same).elim
  · cases between with
    | nil => exact (List.cons.inj behind).1.symm
    | cons first others => exact (longer before' first others same.symm).elim

namespace LineReader

variable {α : Type} {R : LineReader α}

/-- A form starts where the line stands at which it is read. -/
theorem exists_line_of_mem_allFrom {s : Located α} {offset : Nat} {lines : List Text}
    (h : s ∈ R.allFrom offset lines) :
    ∃ before line later more, lines = before ++ line :: later ∧
      s.start = offset + (Text.beforeLine before).length ∧
        R line later = some (s.found, more) := by
  fun_induction R.allFrom offset lines with
  | case1 => simp at h
  | case2 offset line later hR ih =>
    obtain ⟨before, line', later', more, rfl, start, read⟩ := ih h
    refine ⟨line :: before, line', later', more, rfl, ?_, read⟩
    rw [start, Text.beforeLine_cons, List.length_append, List.length_cons]
    omega
  | case3 offset line later a more hR stop ih =>
    rcases List.mem_cons.1 h with rfl | h
    · exact ⟨[], line, later, more, rfl, rfl, hR⟩
    · obtain ⟨before, line', later', more', behind, start, read⟩ := ih h
      have cut : line :: later = (line :: later.take more ++ before) ++ line' :: later' := by
        rw [List.append_assoc, ← behind, List.cons_append, List.take_append_drop]
      have reach : stop = offset + (Text.ofLines (line :: later.take more)).length := rfl
      refine ⟨_, line', later', more', cut, ?_, read⟩
      rw [start, reach, Text.beforeLine_append, List.length_append,
        Text.beforeLine_eq (List.cons_ne_nil _ _), List.length_append, List.length_singleton]
      omega

/-- A form that is found takes whole lines among those searched, and at least one character. -/
theorem bounds_of_mem_allFrom (empty : ∀ later, R [] later = none) {s : Located α} {offset : Nat}
    {lines : List Text} (h : s ∈ R.allFrom offset lines) :
    offset ≤ s.start ∧ s.start < s.stop ∧ s.stop ≤ offset + (Text.ofLines lines).length := by
  fun_induction R.allFrom offset lines with
  | case1 => simp at h
  | case2 offset line later hR ih =>
    obtain ⟨le, lt, within⟩ := ih h
    cases later with
    | nil => simp [allFrom] at h
    | cons next later =>
      rw [Text.ofLines_cons, Text.afterLine_cons, List.length_append, List.length_cons]
      omega
  | case3 offset line later a more hR stop ih =>
    have whole := congrArg List.length (Text.ofLines_take_append line later more)
    rw [List.length_append] at whole
    have pos : 0 < (Text.ofLines (line :: later.take more)).length := by
      cases line with
      | nil => simp [empty] at hR
      | cons c line => simp [Text.ofLines_cons]
    have reach : stop = offset + (Text.ofLines (line :: later.take more)).length := rfl
    rcases List.mem_cons.1 h with rfl | h
    · exact ⟨Nat.le_refl _, by dsimp only; omega, by dsimp only; omega⟩
    · obtain ⟨le, lt, within⟩ := ih h
      cases same : later.drop more with
      | nil => simp [same, allFrom] at h
      | cons next others =>
        rw [same] at within whole
        rw [Text.afterLine_cons, List.length_cons] at whole
        omega

theorem allFrom_pairwise (empty : ∀ later, R [] later = none) (offset : Nat) (lines : List Text) :
    (R.allFrom offset lines).Pairwise fun s t => s.stop < t.start := by
  fun_induction R.allFrom offset lines with
  | case1 => exact List.Pairwise.nil
  | case2 offset line later hR ih => exact ih
  | case3 offset line later a more hR stop ih =>
    exact List.Pairwise.cons (fun t ht => (bounds_of_mem_allFrom empty ht).1) ih

theorem allFrom_pairwise_start (empty : ∀ later, R [] later = none) (offset : Nat)
    (lines : List Text) : (R.allFrom offset lines).Pairwise fun s t => s.start < t.start := by
  refine (allFrom_pairwise empty offset lines).imp_of_mem fun hs _ apart => ?_
  exact Nat.lt_trans (bounds_of_mem_allFrom empty hs).2.1 apart

/-- A line that is read lies in a form that is found. -/
theorem exists_around {line : Text} {later : List Text} (reads : (R line later).isSome)
    (offset : Nat) (before : List Text) :
    ∃ s ∈ R.allFrom offset (before ++ line :: later),
      s.start ≤ offset + (Text.beforeLine before).length ∧
        offset + (Text.beforeLine before).length + line.length ≤ s.stop := by
  generalize same : before ++ line :: later = lines
  fun_induction R.allFrom offset lines generalizing before with
  | case1 => simp at same
  | case2 offset first others hR ih =>
    cases before with
    | nil =>
      obtain ⟨rfl, rfl⟩ := List.cons.inj same
      simp [hR] at reads
    | cons b before =>
      rw [List.cons_append] at same
      obtain ⟨rfl, behind⟩ := List.cons.inj same
      obtain ⟨s, hs, le, within⟩ := ih before behind
      refine ⟨s, hs, ?_, ?_⟩ <;>
        (rw [Text.beforeLine_cons, List.length_append, List.length_cons]; omega)
  | case3 offset first others a more hR stop ih =>
    have reach : stop = offset + (Text.ofLines (first :: others.take more)).length := rfl
    cases before with
    | nil =>
      obtain ⟨rfl, rfl⟩ := List.cons.inj same
      refine ⟨_, List.mem_cons_self, by simp, ?_⟩
      rw [Text.ofLines_cons, List.length_append] at reach
      simp only [Text.beforeLine, List.flatMap_nil, List.length_nil]
      omega
    | cons b before =>
      rw [List.cons_append] at same
      obtain ⟨rfl, rfl⟩ := List.cons.inj same
      by_cases beyond : more ≤ before.length
      · -- the line stands behind the form that is read first
        rw [List.take_append_of_le_length beyond] at reach
        obtain ⟨s, hs, le, within⟩ := ih (before.drop more)
          (List.drop_append_of_le_length beyond).symm
        have whole := Text.length_beforeLine_drop b before more
        exact ⟨s, List.mem_cons_of_mem _ hs, by omega, by omega⟩
      · -- the form that is read first takes the line too
        obtain ⟨n, hn⟩ : ∃ n, more = before.length + (n + 1) := ⟨more - before.length - 1, by omega⟩
        rw [hn, List.take_length_add_append, List.take_succ_cons, ← List.cons_append,
          Text.ofLines_append_right _ (List.cons_ne_nil _ _), Text.ofLines_cons,
          List.length_append, List.length_append] at reach
        exact ⟨_, List.mem_cons_self, by simp, by dsimp only; omega⟩

/-- A line that is read whatever stands behind it lies in exactly one of the forms found. -/
theorem existsUnique_around (empty : ∀ later, R [] later = none) {line : Text}
    (reads : ∀ later, (R line later).isSome) (offset : Nat) (before later : List Text) :
    ∃! s, s ∈ R.allFrom offset (before ++ line :: later) ∧
      s.start ≤ offset + (Text.beforeLine before).length ∧
        offset + (Text.beforeLine before).length + line.length ≤ s.stop := by
  obtain ⟨s, hs, le, within⟩ := exists_around (reads later) offset before
  refine ⟨s, ⟨hs, le, within⟩, ?_⟩
  rintro t ⟨ht, le', within'⟩
  by_contra ne
  have apart : (R.allFrom offset (before ++ line :: later)).Pairwise
      fun s t => s.stop < t.start ∨ t.stop < s.start :=
    (allFrom_pairwise empty offset _).imp Or.inl
  have : Std.Symm fun s t : Located α => s.stop < t.start ∨ t.stop < s.start :=
    ⟨fun _ _ => Or.symm⟩
  rcases apart.forall ht hs ne with h | h <;> omega

/-- Where no form of the lines in front depends on those behind, a search goes on behind them. -/
theorem allFrom_append {after : List Text} (offset : Nat) {lines : List Text}
    (stays : ∀ line later, (line :: later) <:+ lines → R line (later ++ after) = R line later ∧
      ∀ a more, R line later = some (a, more) → more ≤ later.length) :
    R.allFrom offset (lines ++ after) = R.allFrom offset lines ++
      R.allFrom (offset + (Text.beforeLine lines).length) after := by
  fun_induction R.allFrom offset lines with
  | case1 => rfl
  | case2 offset line later hR ih =>
    have shift : offset + (Text.beforeLine (line :: later)).length =
        offset + line.length + 1 + (Text.beforeLine later).length := by
      rw [Text.beforeLine_cons, List.length_append, List.length_cons]
      omega
    have behind := ih fun first others suffix =>
      stays first others (suffix.trans (List.suffix_cons line later))
    rw [List.cons_append, allFrom, (stays line later (List.suffix_refl _)).1, hR, shift]
    exact behind
  | case3 offset line later a more hR stop ih =>
    obtain ⟨same, within⟩ := stays line later (List.suffix_refl _)
    have le := within a more hR
    have shift := Text.length_beforeLine_drop line later more
    have behind := ih fun first others suffix =>
      stays first others ((suffix.trans (List.drop_suffix more later)).trans
        (List.suffix_cons line later))
    have reach : stop = offset + (Text.ofLines (line :: later.take more)).length := rfl
    rw [List.cons_append, allFrom, same, hR]
    simp only [List.take_append_of_le_length le, List.drop_append_of_le_length le]
    rw [behind, List.cons_append, reach, shift]
    simp only [Nat.add_assoc]

theorem le_length_of_ofLines_take {b line : Text} {before later : List Text} {more : Nat}
    (ne : line ≠ []) (within : (Text.ofLines (b :: (before ++ line :: later).take more)).length ≤
      (Text.beforeLine (b :: before)).length) : more ≤ before.length := by
  by_contra beyond
  obtain ⟨n, rfl⟩ : ∃ n, more = before.length + (n + 1) := ⟨more - before.length - 1, by omega⟩
  have pos := List.length_pos_iff.2 ne
  rw [List.take_length_add_append, List.take_succ_cons, ← List.cons_append,
    Text.ofLines_append_right _ (List.cons_ne_nil _ _), Text.ofLines_cons,
    List.length_append, List.length_append] at within
  omega

/-- A search goes on at a line into which no form from above reaches. -/
theorem exists_above (offset : Nat) (before : List Text) {line : Text} (ne : line ≠ [])
    (later : List Text)
    (apart : ∀ s ∈ R.allFrom offset (before ++ line :: later),
      s.start < offset + (Text.beforeLine before).length →
        s.stop ≤ offset + (Text.beforeLine before).length) :
    ∃ above, R.allFrom offset (before ++ line :: later) =
        above ++ R.allFrom (offset + (Text.beforeLine before).length) (line :: later) ∧
      ∀ s ∈ above, s.stop < offset + (Text.beforeLine before).length := by
  induction size : before.length using Nat.strongRecOn generalizing offset before with
  | ind n ih =>
    subst size
    cases before with
    | nil => exact ⟨[], by simp [Text.beforeLine], by simp⟩
    | cons b before =>
      rw [List.cons_append, allFrom] at apart ⊢
      cases hR : R b (before ++ line :: later) with
      | none =>
        have shift : offset + (Text.beforeLine (b :: before)).length =
            offset + b.length + 1 + (Text.beforeLine before).length := by
          rw [Text.beforeLine_cons, List.length_append, List.length_cons]
          omega
        simp only [hR, shift] at apart ⊢
        exact ih before.length (Nat.lt_succ_self _) _ before apart rfl
      | some read =>
        obtain ⟨a, more⟩ := read
        simp only [hR] at apart ⊢
        obtain ⟨own, others⟩ := List.forall_mem_cons.1 apart
        have begins : 0 < (Text.beforeLine (b :: before)).length := by
          rw [Text.beforeLine_cons, List.length_append, List.length_cons]
          omega
        have inside := own (Nat.lt_add_of_pos_right begins)
        have le := le_length_of_ofLines_take ne (Nat.le_of_add_le_add_left inside)
        have shift : offset + (Text.beforeLine (b :: before)).length =
            offset + (Text.ofLines (b :: before.take more)).length + 1 +
              (Text.beforeLine (before.drop more)).length := by
          rw [Text.length_beforeLine_drop b before more]
          omega
        rw [List.take_append_of_le_length le, shift] at others
        rw [List.take_append_of_le_length le, shift]
        rw [List.drop_append_of_le_length le] at others ⊢
        have fewer : (before.drop more).length < (b :: before).length := by
          rw [List.length_drop, List.length_cons]
          omega
        obtain ⟨above, found, within⟩ := ih _ fewer _ (before.drop more) others rfl
        rw [found]
        exact ⟨_ :: above, rfl, List.forall_mem_cons.2 ⟨by dsimp only; omega, within⟩⟩

end LineReader
end PageDirectives
