import PageDirectives.Text.Basic
/-!
Cuts at a mark. A text is cut at the leftmost place where the mark stands, so no piece holds the
mark again, and pieces that do not bring it about where they meet it come back as they were joined.
-/
namespace PageDirectives.Text

variable {mark text : Text}

theorem after?_eq_none_iff : after? mark text = none ↔ ¬ mark <+: text := by
  constructor
  · rintro none ⟨rest, rfl⟩
    rw [after?_append] at none
    exact nomatch none
  · intro unread
    cases h : after? mark text with
    | none => rfl
    | some rest => exact absurd ⟨rest, (after?_eq_some h).symm⟩ unread

/-- Two marks that follow each other are read one after the other. -/
theorem after?_append_mark (mark more text : Text) :
    after? (mark ++ more) text = (after? mark text).bind (after? more) := by
  induction mark generalizing text with
  | nil => rfl
  | cons m mark ih =>
    cases text with
    | nil => rfl
    | cons c text =>
      rw [List.cons_append, after?, after?]
      split
      · exact ih text
      · rfl

theorem cut?_eq_none_iff : cut? mark text = none ↔ ¬ mark <:+: text := by
  induction text with
  | nil => simp [cut?]
  | cons c text ih =>
    rw [cut?, List.infix_cons_iff, not_or, ← after?_eq_none_iff, ← ih]
    cases after? mark (c :: text) <;> simp

/-- A text is cut at a mark in it if no mark begins before. -/
theorem cut?_append {front : Text} (first : ¬ mark <:+: front ++ mark.dropLast) (back : Text) :
    cut? mark (front ++ (mark ++ back)) = some (front, back) := by
  induction front with
  | nil =>
    cases mark with
    | nil => exact absurd (List.nil_infix) first
    | cons m mark =>
      rw [List.nil_append, List.cons_append, cut?, ← List.cons_append, after?_append]
  | cons c front ih =>
    rw [List.cons_append, List.infix_cons_iff, not_or] at first
    have later : after? mark (c :: (front ++ (mark ++ back))) = none := by
      refine after?_eq_none_iff.2 fun early => first.1 ?_
      refine List.prefix_of_prefix_length_le early ?_ (by simp; omega)
      refine List.cons_prefix_cons.2 ⟨rfl, (List.prefix_append_right_inj front).2 ?_⟩
      exact (List.dropLast_prefix mark).trans (List.prefix_append mark back)
    rw [List.cons_append, cut?, later, ih first.2]
    rfl

/-- No mark begins before the one at which a text is cut. -/
theorem not_infix_append_of_cut? (ne : mark ≠ []) {before rest : Text}
    (h : cut? mark text = some (before, rest)) : ¬ mark <:+: before ++ mark.dropLast := by
  induction text generalizing before with
  | nil => simp [cut?, ne] at h
  | cons c text ih =>
    rw [cut?] at h
    cases read : after? mark (c :: text) with
    | some rest =>
      rw [read] at h
      obtain ⟨rfl, -⟩ : [] = before ∧ _ := by simpa using h
      intro early
      have short := early.length_le
      have := List.length_pos_iff.2 ne
      rw [List.nil_append, List.length_dropLast] at short
      omega
    | none =>
      rw [read] at h
      obtain ⟨⟨before, rest⟩, cut, same⟩ := Option.map_eq_some_iff.1 h
      obtain ⟨rfl, rfl⟩ := Prod.mk.inj same
      rw [List.cons_append, List.infix_cons_iff, not_or]
      refine ⟨fun early => after?_eq_none_iff.1 read (early.trans ?_), ih cut⟩
      rw [cut?_eq_some cut, List.append_assoc]
      refine List.cons_prefix_cons.2 ⟨rfl, (List.prefix_append_right_inj before).2 ?_⟩
      exact (List.dropLast_prefix mark).trans (List.prefix_append mark rest)

theorem not_infix_of_cut? (ne : mark ≠ []) {before rest : Text}
    (h : cut? mark text = some (before, rest)) : ¬ mark <:+: before := fun inside =>
  not_infix_append_of_cut? ne h (inside.trans (List.prefix_append before _).isInfix)

/-- In front of the mark at which a text is cut no mark is read. -/
theorem not_prefix_of_cut? (ne : mark ≠ []) {before rest back : Text}
    (h : cut? mark text = some (before, rest)) (filled : back ≠ []) (suffix : back <:+ before) :
    ¬ mark <+: back ++ (mark ++ rest) := by
  intro early
  have short : mark <+: back ++ mark.dropLast := by
    refine List.prefix_of_prefix_length_le early ?_ ?_
    · refine (List.prefix_append_right_inj back).2 ?_
      exact (List.dropLast_prefix mark).trans (List.prefix_append mark rest)
    · have := List.length_pos_iff.2 filled
      rw [List.length_append, List.length_dropLast]
      omega
  obtain ⟨front, rfl⟩ := suffix
  refine not_infix_append_of_cut? ne h (short.isInfix.trans ?_)
  rw [List.append_assoc]
  exact (List.suffix_append front _).isInfix

/-- Where a mark stands in a text, the text is cut there or before. -/
theorem exists_cut?_append (ne : mark ≠ []) (front back : Text) :
    ∃ before rest, cut? mark (front ++ (mark ++ back)) = some (before, rest) ∧ back <:+ rest := by
  induction front with
  | nil =>
    refine ⟨[], back, ?_, List.suffix_refl back⟩
    obtain ⟨m, others, rfl⟩ := List.exists_cons_of_ne_nil ne
    rw [List.nil_append, List.cons_append, cut?, ← List.cons_append, after?_append]
  | cons c front ih =>
    rw [List.cons_append, cut?]
    cases read : after? mark (c :: (front ++ (mark ++ back))) with
    | some rest =>
      refine ⟨[], rest, rfl, ?_⟩
      have whole := after?_eq_some read
      have size := congrArg List.length whole
      simp only [List.length_cons, List.length_append] at size
      have behind : back <:+ mark ++ rest := by
        rw [← whole, ← List.cons_append, ← List.append_assoc]
        exact List.suffix_append _ back
      exact List.suffix_of_suffix_length_le behind (List.suffix_append mark rest) (by omega)
    | none =>
      obtain ⟨before, rest, cut, behind⟩ := ih
      exact ⟨c :: before, rest, by rw [cut]; rfl, behind⟩

theorem splitAll_of_none (h : cut? mark text = none) : splitAll mark text = [text] := by
  rw [splitAll]
  split
  · rfl
  · split
    · rfl
    · next cut => simp [h] at cut

theorem splitAll_of_some (ne : mark ≠ []) {before rest : Text}
    (h : cut? mark text = some (before, rest)) :
    splitAll mark text = before :: splitAll mark rest := by
  rw [splitAll, dif_neg ne]
  split
  · next none => simp [h] at none
  · next cut =>
    obtain ⟨rfl, rfl⟩ := Prod.mk.inj (Option.some.inj (h.symm.trans cut))
    rfl

theorem splitAll_ne_nil (mark text : Text) : splitAll mark text ≠ [] := by
  fun_cases splitAll mark text <;> simp

/-- The pieces of a text make it up again. -/
theorem join_splitAll (mark text : Text) : join mark (splitAll mark text) = text := by
  fun_induction splitAll mark text with
  | case1 text => rw [join, List.intercalate_singleton]
  | case2 text => rw [join, List.intercalate_singleton]
  | case3 text _ before rest cut ih =>
    obtain ⟨piece, pieces, same⟩ := List.exists_cons_of_ne_nil (splitAll_ne_nil mark rest)
    rw [same] at ih ⊢
    rw [join, List.intercalate_cons_cons, ← join, ih, cut?_eq_some cut]

/-- The pieces of a text are parts of it without the mark. -/
theorem of_mem_splitAll (ne : mark ≠ []) {piece : Text} (h : piece ∈ splitAll mark text) :
    piece <:+: text ∧ ¬ mark <:+: piece := by
  fun_induction splitAll mark text with
  | case1 text empty => exact absurd empty ne
  | case2 text _ cut =>
    rw [List.mem_singleton.1 h]
    exact ⟨List.infix_rfl, cut?_eq_none_iff.1 cut⟩
  | case3 text _ before rest cut ih =>
    have whole := cut?_eq_some cut
    rcases List.mem_cons.1 h with rfl | h
    · refine ⟨?_, not_infix_of_cut? ne cut⟩
      rw [whole, List.append_assoc]
      exact (List.prefix_append _ _).isInfix
    · obtain ⟨inside, unmarked⟩ := ih h
      exact ⟨inside.trans (whole ▸ (List.suffix_append _ _).isInfix), unmarked⟩

/-- Pieces come back as they were joined if no mark comes about at their ends. -/
theorem splitAll_join (ne : mark ≠ []) {pieces : List Text} {last : Text}
    (apart : ∀ p ∈ pieces, ¬ mark <:+: p ++ mark.dropLast) (end' : ¬ mark <:+: last) :
    splitAll mark (join mark (pieces ++ [last])) = pieces ++ [last] := by
  induction pieces with
  | nil =>
    rw [List.nil_append, join, List.intercalate_singleton]
    exact splitAll_of_none (cut?_eq_none_iff.2 end')
  | cons p pieces ih =>
    rw [List.forall_mem_cons] at apart
    have cut : join mark (p :: (pieces ++ [last])) = p ++ (mark ++ join mark (pieces ++ [last])) := by
      obtain ⟨next, others, same⟩ := List.exists_cons_of_ne_nil
        (List.append_ne_nil_of_right_ne_nil pieces (List.cons_ne_nil last []))
      rw [join, same, List.intercalate_cons_cons, List.append_assoc]
      rfl
    rw [List.cons_append, cut, splitAll_of_some ne (cut?_append apart.1 _), ih apart.2]

end PageDirectives.Text
