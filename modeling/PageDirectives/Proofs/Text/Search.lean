import Mathlib.Data.List.Pairwise
import PageDirectives.Text.Search
/-!
What every search finds, whatever its recogniser reads: forms in document order that do not overlap,
each of them read at its own offset. Splicing a text into the place of every form found is the same
as exchanging the forms on the way through the text. A search whose recogniser takes no heed of line
starts goes through a text piece by piece.
-/
namespace PageDirectives

theorem Text.slice_self (text : Text) (n : Nat) : Text.slice text n n = [] := by
  simp [Text.slice]

theorem Text.slice_append_drop (text : Text) {start stop : Nat} (le : start ≤ stop) :
    Text.slice text start stop ++ text.drop stop = text.drop start := by
  have cut := List.take_append_drop (stop - start) (text.drop start)
  rwa [List.drop_drop, Nat.add_sub_cancel' le] at cut

theorem Text.slice_append (text : Text) {start middle stop : Nat} (le : start ≤ middle)
    (le' : middle ≤ stop) :
    Text.slice text start middle ++ Text.slice text middle stop = Text.slice text start stop := by
  refine List.append_cancel_right (?_ : _ ++ text.drop stop = _ ++ text.drop stop)
  rw [List.append_assoc, slice_append_drop text le', slice_append_drop text le,
    slice_append_drop text (Nat.le_trans le le')]

namespace Search

variable {α : Type} {r : Recogniser α}

/-- Where a form is found, the recogniser reads it there, and it stops where it was read to. -/
theorem exists_read_of_mem_allFrom {s : Located α} {offset : Nat} {lineStart : Bool} {text : Text}
    (h : s ∈ allFrom r offset lineStart text) :
    offset ≤ s.start ∧ s.start - offset < text.length ∧
      ∃ flag size, r flag (text.drop (s.start - offset)) = some (s.found, size) ∧
        s.stop = s.start + 1 + (size - 1) := by
  fun_induction allFrom r offset lineStart text with
  | case1 => simp at h
  | case2 offset lineStart c text hr ih =>
    obtain ⟨le, lt, flag, size, read, stop⟩ := ih h
    have shift : s.start - offset = (s.start - (offset + 1)) + 1 := by omega
    refine ⟨by omega, by simp only [List.length_cons]; omega, flag, size, ?_, stop⟩
    rw [shift, List.drop_succ_cons]
    exact read
  | case3 offset lineStart c text found size hr ih =>
    rcases List.mem_cons.1 h with rfl | h
    · exact ⟨Nat.le_refl _, by simp, lineStart, size, by simpa using hr, rfl⟩
    · obtain ⟨le, lt, flag, size', read, stop⟩ := ih h
      have shift : s.start - offset = (size - 1) + (s.start - (offset + 1 + (size - 1))) + 1 := by
        omega
      rw [List.length_drop] at lt
      refine ⟨by omega, by simp only [List.length_cons]; omega, flag, size', ?_, stop⟩
      rw [shift, List.drop_succ_cons, ← List.drop_drop]
      exact read

theorem exists_read_of_mem_all {s : Located α} {text : Text} (h : s ∈ all r text) :
    s.start < text.length ∧ ∃ flag size, r flag (text.drop s.start) = some (s.found, size) ∧
      s.stop = s.start + 1 + (size - 1) := by
  obtain ⟨-, lt, read⟩ := exists_read_of_mem_allFrom h
  exact ⟨lt, read⟩

theorem allFrom_pairwise (offset : Nat) (lineStart : Bool) (text : Text) :
    (allFrom r offset lineStart text).Pairwise fun s t => s.stop ≤ t.start := by
  fun_induction allFrom r offset lineStart text with
  | case1 => exact List.Pairwise.nil
  | case2 _ _ _ _ _ ih => exact ih
  | case3 offset lineStart c text found size hr ih =>
    refine List.Pairwise.cons (fun t ht => ?_) ih
    exact (exists_read_of_mem_allFrom ht).1

theorem all_pairwise (text : Text) :
    (all r text).Pairwise fun s t => s.stop ≤ t.start :=
  allFrom_pairwise 0 true text

/-- Of two forms that are found, the one that begins first ends before the other. -/
theorem stop_le_start_of_mem_all {s t : Located α} {text : Text} (hs : s ∈ all r text)
    (ht : t ∈ all r text) (lt : s.start < t.start) : s.stop ≤ t.start := by
  have apart : (all r text).Pairwise fun s t => s.stop ≤ t.start ∨ t.stop ≤ s.start :=
    (all_pairwise text).imp Or.inl
  have : Std.Symm fun s t : Located α => s.stop ≤ t.start ∨ t.stop ≤ s.start :=
    ⟨fun _ _ => Or.symm⟩
  have ne : s ≠ t := by
    rintro rfl
    omega
  obtain ⟨-, _, _, -, stop⟩ := exists_read_of_mem_all ht
  rcases apart.forall hs ht ne with before | behind
  · exact before
  · omega

theorem allFrom_eq_nil {β : Type} {q : Recogniser β}
    (h : ∀ flag text, q flag text = none → r flag text = none) {offset : Nat} {lineStart : Bool}
    {text : Text} (clear : allFrom q offset lineStart text = []) :
    allFrom r offset lineStart text = [] := by
  fun_induction allFrom r offset lineStart text with
  | case1 => rfl
  | case2 offset lineStart c text hr ih =>
    rw [allFrom] at clear
    split at clear
    · exact ih clear
    · simp at clear
  | case3 offset lineStart c text found size hr ih =>
    rw [allFrom] at clear
    split at clear
    · next none => simp [h _ _ none] at hr
    · simp at clear

/-- An exchange goes on behind a form that is read. -/
theorem exchangeFrom_of_some {image : α → Text} {lineStart : Bool} {text : Text} {a : α}
    {size : Nat} (ne : text ≠ []) (pos : 0 < size) (read : r lineStart text = some (a, size)) :
    exchangeFrom r image lineStart text =
      image a ++ exchangeFrom r image (lineStartAfter (text.take size)) (text.drop size) := by
  obtain ⟨c, text, rfl⟩ := List.exists_cons_of_ne_nil ne
  obtain ⟨size, rfl⟩ := Nat.exists_eq_succ_of_ne_zero (Nat.ne_of_gt pos)
  rw [exchangeFrom, read]
  rfl

/-- Splicing from a cursor on keeps what lies before the next form. -/
theorem behind_allFrom (image : α → Text) (whole : Text) {cursor offset : Nat}
    (le : cursor ≤ offset) (lineStart : Bool) {text : Text} (rest : text = whole.drop offset) :
    Splice.behind whole cursor ((allFrom r offset lineStart text).map fun s =>
        ((s.start, s.stop), image s.found)) =
      Text.slice whole cursor offset ++ exchangeFrom r image lineStart text := by
  fun_induction allFrom r offset lineStart text generalizing cursor with
  | case1 offset lineStart =>
    rw [List.map_nil, Splice.behind, exchangeFrom, rest, Text.slice_append_drop whole le]
  | case2 offset lineStart c text hr ih =>
    have next : text = whole.drop (offset + 1) := by rw [← List.drop_drop, ← rest]; rfl
    have kept : Text.slice whole cursor (offset + 1) = Text.slice whole cursor offset ++ [c] := by
      refine List.append_cancel_right (?_ : _ ++ text = _ ++ text)
      rw [next, Text.slice_append_drop whole (Nat.le_succ_of_le le), List.append_assoc, ← next,
        List.singleton_append, rest, Text.slice_append_drop whole le]
    rw [ih (Nat.le_succ_of_le le) next, exchangeFrom, hr, kept, List.append_assoc,
      List.singleton_append]
  | case3 offset lineStart c text found size hr ih =>
    have next : text.drop (size - 1) = whole.drop (offset + 1 + (size - 1)) := by
      rw [← List.drop_drop, ← List.drop_drop, ← rest]
      rfl
    rw [List.map_cons, Splice.behind, ih (Nat.le_refl _) next, exchangeFrom, hr, Text.slice_self]
    simp only [List.nil_append, List.append_assoc]

/-- Splicing texts into the places of all forms found exchanges each form for its text. -/
theorem behind_all (image : α → Text) (text : Text) :
    Splice.behind text 0 ((all r text).map fun s => ((s.start, s.stop), image s.found)) =
      exchange r image text := by
  have spliced := behind_allFrom (r := r) image text (Nat.le_refl 0) true List.drop_zero.symm
  rwa [Text.slice_self] at spliced

/-- What is found in a text, without the places. -/
def found (r : Recogniser α) (text : Text) : List α := (all r text).map (·.found)

end Search

/-- Line starts make no difference to what a recogniser reads. -/
def Recogniser.Unanchored {α : Type} (r : Recogniser α) : Prop :=
  ∀ flag text, r flag text = r true text

namespace Search

section Unanchored

variable {α : Type} {r : Recogniser α} (unanchored : r.Unanchored) (image : α → Text)
include unanchored

theorem map_found_allFrom (offset : Nat) (flag : Bool) (text : Text) :
    (allFrom r offset flag text).map (·.found) = found r text := by
  suffices h : ∀ n flag', (allFrom r offset flag text).map (·.found) =
      (allFrom r n flag' text).map (·.found) from h 0 true
  intro n flag'
  fun_induction allFrom r offset flag text generalizing n flag' with
  | case1 => simp only [allFrom]
  | case2 offset flag c text hr ih =>
    rw [allFrom, unanchored flag', ← unanchored flag, hr]
    exact ih _ _
  | case3 offset flag c text a size hr ih =>
    rw [allFrom, unanchored flag', ← unanchored flag, hr, List.map_cons, List.map_cons]
    exact congrArg (a :: ·) (ih _ _)

theorem exchangeFrom_eq (flag : Bool) (text : Text) :
    exchangeFrom r image flag text = exchange r image text := by
  cases text with
  | nil => simp only [exchange, exchangeFrom]
  | cons c text => rw [exchange, exchangeFrom, exchangeFrom, unanchored flag]

/-- A search goes past a character at which nothing is read. -/
theorem cons_of_none {c : Char} {rest : Text} (unread : r true (c :: rest) = none) :
    found r (c :: rest) = found r rest ∧
      exchange r image (c :: rest) = c :: exchange r image rest := by
  constructor
  · rw [found, all, allFrom, unread]
    exact map_found_allFrom unanchored _ _ rest
  · rw [exchange, exchangeFrom, unread]
    exact congrArg (c :: ·) (exchangeFrom_eq unanchored image _ rest)

theorem append_of_none {front rest : Text}
    (unread : ∀ back, back ≠ [] → back <:+ front → r true (back ++ rest) = none) :
    found r (front ++ rest) = found r rest ∧
      exchange r image (front ++ rest) = front ++ exchange r image rest := by
  induction front with
  | nil => exact ⟨rfl, rfl⟩
  | cons c front ih =>
    obtain ⟨same, kept⟩ := ih fun back ne suffix =>
      unread back ne (suffix.trans (List.suffix_cons c front))
    have first := unread (c :: front) (List.cons_ne_nil c front) (List.suffix_refl _)
    obtain ⟨skipped, goes⟩ :
        found r (c :: (front ++ rest)) = found r (front ++ rest) ∧
          exchange r image (c :: (front ++ rest)) = c :: exchange r image (front ++ rest) :=
      cons_of_none unanchored image first
    exact ⟨skipped.trans same, goes.trans (congrArg (c :: ·) kept)⟩

/-- A text in which nothing is read is kept. -/
theorem exchange_of_none {text : Text}
    (unread : ∀ back, back ≠ [] → back <:+ text → r true back = none) :
    exchange r image text = text := by
  have alone : ∀ back, back ≠ [] → back <:+ text → r true (back ++ []) = none := by
    simpa only [List.append_nil] using unread
  have kept : exchange r image (text ++ []) = text ++ exchange r image [] :=
    (append_of_none unanchored image alone).2
  rwa [exchange, exchange, exchangeFrom, List.append_nil] at kept

/-- A search goes on behind a piece that is read. -/
theorem append_of_some {piece rest : Text} {a : α} (ne : piece ≠ [])
    (read : r true (piece ++ rest) = some (a, piece.length)) :
    found r (piece ++ rest) = a :: found r rest ∧
      exchange r image (piece ++ rest) = image a ++ exchange r image rest := by
  cases piece with
  | nil => exact absurd rfl ne
  | cons c piece =>
    rw [List.cons_append] at read ⊢
    rw [found, all, allFrom, read, exchange, exchangeFrom, read, List.map_cons]
    simp only [List.length_cons, Nat.add_sub_cancel, List.drop_left]
    rw [map_found_allFrom unanchored, exchangeFrom_eq unanchored]
    exact ⟨rfl, rfl⟩

/-- Where nothing that is read in the front reaches into the rest or depends on it, a search of both
is one of the front and then of the rest. -/
theorem append_of_stays {front rest : Text}
    (stays : ∀ back, back ≠ [] → back <:+ front → r true (back ++ rest) = r true back ∧
      ∀ a size, r true back = some (a, size) → 0 < size ∧ size ≤ back.length) :
    found r (front ++ rest) = found r front ++ found r rest ∧
      exchange r image (front ++ rest) = exchange r image front ++ exchange r image rest := by
  induction size : front.length using Nat.strongRecOn generalizing front with
  | ind n ih =>
    subst size
    by_cases empty : front = []
    · subst empty
      constructor
      · simp only [found, all, allFrom, List.map_nil, List.nil_append]
      · simp only [exchange, exchangeFrom, List.nil_append]
    have further (back : Text) (suffix : back <:+ front) (shorter : back.length < front.length) :=
      ih back.length shorter (fun piece ne inside => stays piece ne (inside.trans suffix)) rfl
    obtain ⟨same, within⟩ := stays front empty (List.suffix_refl front)
    cases read : r true front with
    | none =>
      obtain ⟨c, front, rfl⟩ := List.exists_cons_of_ne_nil empty
      rw [read] at same
      obtain ⟨skipped, kept⟩ := cons_of_none unanchored image read
      obtain ⟨skipped', kept'⟩ := cons_of_none unanchored image same
      obtain ⟨founds, texts⟩ := further front (List.suffix_cons c front) (Nat.lt_succ_self _)
      exact ⟨(skipped'.trans founds).trans (congrArg (· ++ _) skipped.symm),
        (kept'.trans (congrArg (c :: ·) texts)).trans (congrArg (· ++ _) kept.symm)⟩
    | some form =>
      obtain ⟨a, size⟩ := form
      obtain ⟨pos, le⟩ := within a size read
      -- the form takes a piece of the front, and the search goes on behind the piece
      obtain ⟨piece, back, rfl, rfl⟩ : ∃ piece back, front = piece ++ back ∧ size = piece.length :=
        ⟨front.take size, front.drop size, (List.take_append_drop size front).symm, by simp [le]⟩
      have filled : piece ≠ [] := List.length_pos_iff.1 pos
      rw [read, List.append_assoc] at same
      obtain ⟨first, image₁⟩ := append_of_some unanchored image filled read
      obtain ⟨first', image₂⟩ := append_of_some unanchored image filled same
      obtain ⟨founds, texts⟩ := further back (List.suffix_append piece back)
        (by rw [List.length_append]; omega)
      constructor
      · rw [first, List.append_assoc, first', founds, List.cons_append]
      · rw [image₁, List.append_assoc, image₂, texts, List.append_assoc]

/-- Where a form can be read, it is found, or another one that is found takes its first character. -/
theorem exists_mem_all_of_read {text : Text} {n : Nat} (lt : n < text.length) {a : α} {size : Nat}
    (read : r true (text.drop n) = some (a, size)) :
    ∃ s ∈ all r text, s.start ≤ n ∧ n < s.stop ∧ (s.start = n → s.found = a) := by
  suffices h : ∀ offset flag, ∃ s ∈ allFrom r offset flag text,
      s.start ≤ offset + n ∧ offset + n < s.stop ∧ (s.start = offset + n → s.found = a) by
    simpa only [all, Nat.zero_add] using h 0 true
  intro offset flag
  fun_induction allFrom r offset flag text generalizing n with
  | case1 => simp at lt
  | case2 offset flag c text unread ih =>
    cases n with
    | zero =>
      rw [List.drop_zero, ← unanchored flag, unread] at read
      exact nomatch read
    | succ n =>
      rw [List.drop_succ_cons] at read
      obtain ⟨s, mem, le, lt, same⟩ := ih (Nat.lt_of_succ_lt_succ lt) read
      exact ⟨s, mem, by omega, by omega, fun start => same (by omega)⟩
  | case3 offset flag c text found size hr ih =>
    by_cases inside : n < 1 + (size - 1)
    · refine ⟨_, List.mem_cons_self, Nat.le_add_right .., by dsimp only; omega, fun start => ?_⟩
      obtain rfl : n = 0 := by
        dsimp only at start
        omega
      rw [List.drop_zero, ← unanchored flag, hr] at read
      cases read
      rfl
    · obtain ⟨m, rfl⟩ : ∃ m, n = (size - 1 + m) + 1 := ⟨n - 1 - (size - 1), by omega⟩
      rw [List.drop_succ_cons, ← List.drop_drop] at read
      rw [List.length_cons] at lt
      obtain ⟨s, mem, le, lt, same⟩ := ih (by rw [List.length_drop]; omega) read
      exact ⟨s, List.mem_cons_of_mem _ mem, by omega, by omega, fun start => same (by omega)⟩

end Unanchored

end Search
end PageDirectives
