import PageDirectives.Proofs.Text.LineSearch
/-!
What an exchange leaves for later searches. A reader that heeds only lines of some kind finds
nothing after an exchange that brings in no such lines, neither where it was itself exchanged nor
where it had found nothing before. So lines that are searched once stay searched.
-/
namespace PageDirectives.LineReader

variable {α : Type} {R : LineReader α} {p : Text → Bool}

/-- A reader heeds only lines of one kind: a form begins with such a line, and where nothing is read,
nothing is read either with fewer of them behind the line. -/
structure Heeds (R : LineReader α) (p : Text → Bool) : Prop where
  first : ∀ line later, p line = false → R line later = none
  behind : ∀ line later later', (later'.filter p).Sublist (later.filter p) →
    R line later = none → R line later' = none

/-- A text brings in no lines of a kind. -/
def Lacks (p : Text → Bool) (text : Text) : Prop := ∀ line ∈ Text.lines text, p line = false

instance (p : Text → Bool) (text : Text) : Decidable (Lacks p text) :=
  inferInstanceAs (Decidable (∀ line ∈ Text.lines text, p line = false))

theorem lacks_nil (h : p [] = false) : Lacks p [] := by simpa [Lacks] using h

/-- A search for a line of the kind that fails also fails among fewer lines of the kind. -/
theorem findIdx?_eq_none_of_sublist {q : Text → Bool} (only : ∀ line, q line = true → p line = true)
    {later later' : List Text} (sub : (later'.filter p).Sublist (later.filter p))
    (h : later.findIdx? q = none) : later'.findIdx? q = none := by
  rw [List.findIdx?_eq_none_iff] at h ⊢
  intro line hline
  cases hp : p line with
  | false => exact Bool.eq_false_iff.2 fun hq => by simp [only line hq] at hp
  | true => exact h line (List.mem_filter.1 (sub.subset (List.mem_filter.2 ⟨hline, hp⟩))).1

theorem found_cons_eq_nil_iff {line : Text} {later : List Text} :
    R.found (line :: later) = [] ↔ R line later = none ∧ R.found later = [] := by
  cases h : R line later with
  | none => simp [found_of_none h]
  | some read => simp [found_of_some h]

theorem found_eq_nil_of_none {β : Type} {Q : LineReader β}
    (h : ∀ line later, R line later = none → Q line later = none) {lines : List Text}
    (clear : R.found lines = []) : Q.found lines = [] := by
  induction lines with
  | nil => exact found_nil
  | cons line later ih =>
    obtain ⟨none, rest⟩ := found_cons_eq_nil_iff.1 clear
    exact found_cons_eq_nil_iff.2 ⟨h line later none, ih rest⟩

theorem found_append_of_none {lines : List Text}
    (none : ∀ line ∈ lines, ∀ later, R line later = none) (rest : List Text) :
    R.found (lines ++ rest) = R.found rest := by
  induction lines with
  | nil => rfl
  | cons line lines ih =>
    rw [List.cons_append, found_of_none (none line List.mem_cons_self _)]
    exact ih fun l hl => none l (List.mem_cons_of_mem line hl)

theorem exchange_append_of_none (image : α → Text) {lines : List Text}
    (none : ∀ line ∈ lines, ∀ later, R line later = none) (rest : List Text) :
    R.exchange image (lines ++ rest) = lines ++ R.exchange image rest := by
  induction lines with
  | nil => rfl
  | cons line lines ih =>
    rw [List.cons_append, exchange_of_none (none line List.mem_cons_self _),
      ih fun l hl => none l (List.mem_cons_of_mem line hl), List.cons_append]

theorem Heeds.found_append (h : R.Heeds p) {lines : List Text} (lacks : ∀ l ∈ lines, p l = false)
    (rest : List Text) : R.found (lines ++ rest) = R.found rest :=
  found_append_of_none (fun line hl later => h.first line later (lacks line hl)) rest

theorem Heeds.exchange_append (h : R.Heeds p) (image : α → Text) {lines : List Text}
    (lacks : ∀ l ∈ lines, p l = false) (rest : List Text) :
    R.exchange image (lines ++ rest) = lines ++ R.exchange image rest :=
  exchange_append_of_none image (fun line hl later => h.first line later (lacks line hl)) rest

theorem Heeds.found_filter (h : R.Heeds p) (lines : List Text) :
    R.found (lines.filter p) = [] ↔ R.found lines = [] := by
  induction lines with
  | nil => rfl
  | cons line later ih =>
    cases hp : p line with
    | false =>
      rw [List.filter_cons_of_neg (by simp [hp]), ih, found_of_none (h.first line later hp)]
    | true =>
      rw [List.filter_cons_of_pos hp, found_cons_eq_nil_iff, found_cons_eq_nil_iff, ih]
      constructor
      · rintro ⟨none, clear⟩
        exact ⟨h.behind line _ later (by simp) none, clear⟩
      · rintro ⟨none, clear⟩
        exact ⟨h.behind line later _ (by simp) none, clear⟩

theorem Heeds.found_of_sublist (h : R.Heeds p) {lines lines' : List Text}
    (sub : lines'.Sublist lines) (clear : R.found lines = []) : R.found lines' = [] := by
  induction sub with
  | slnil => exact clear
  | cons line sub ih => exact ih (found_cons_eq_nil_iff.1 clear).2
  | cons_cons line sub ih =>
    obtain ⟨none, rest⟩ := found_cons_eq_nil_iff.1 clear
    exact found_cons_eq_nil_iff.2 ⟨h.behind line _ _ (sub.filter p) none, ih rest⟩

/-- Where nothing is found, nothing is found with fewer lines of the kind that is heeded. -/
theorem Heeds.found_eq_nil (h : R.Heeds p) {lines lines' : List Text}
    (sub : (lines'.filter p).Sublist (lines.filter p)) (clear : R.found lines = []) :
    R.found lines' = [] := by
  rw [← h.found_filter] at clear ⊢
  exact h.found_of_sublist sub clear

/-- An exchange makes no lines of a kind that its texts lack, and keeps those left in order. -/
theorem filter_exchange_sublist {image : α → Text} {lines : List Text}
    (lacks : ∀ a ∈ R.found lines, Lacks p (image a)) :
    ((R.exchange image lines).filter p).Sublist (lines.filter p) := by
  fun_induction R.exchange image lines with
  | case1 => exact List.Sublist.refl _
  | case2 line later hR ih =>
    rw [found_of_none hR] at lacks
    rw [List.filter_cons, List.filter_cons]
    split
    · exact (ih lacks).cons_cons line
    · exact ih lacks
  | case3 line later a more hR ih =>
    rw [found_of_some hR] at lacks
    have none : (Text.lines (image a)).filter p = [] := by
      rw [List.filter_eq_nil_iff]
      intro l hl
      simp [lacks a List.mem_cons_self l hl]
    rw [List.filter_append, none, List.nil_append]
    have kept := ih fun b hb => lacks b (List.mem_cons_of_mem a hb)
    have dropped : (later.drop more).Sublist (line :: later) :=
      (List.drop_sublist more later).trans (List.sublist_cons_self line later)
    exact kept.trans (dropped.filter p)

/-- After an exchange that brings in nothing of the kind that is heeded, nothing is found. -/
theorem Heeds.found_exchange (h : R.Heeds p) {image : α → Text} {lines : List Text}
    (lacks : ∀ a ∈ R.found lines, Lacks p (image a)) :
    R.found (R.exchange image lines) = [] := by
  fun_induction R.exchange image lines with
  | case1 => exact found_nil
  | case2 line later hR ih =>
    rw [found_of_none hR] at lacks
    exact found_cons_eq_nil_iff.2
      ⟨h.behind line later _ (filter_exchange_sublist lacks) hR, ih lacks⟩
  | case3 line later a more hR ih =>
    rw [found_of_some hR] at lacks
    rw [h.found_append (lacks a List.mem_cons_self)]
    exact ih fun b hb => lacks b (List.mem_cons_of_mem a hb)

theorem exchange_of_found_eq_nil {image : α → Text} {lines : List Text}
    (clear : R.found lines = []) : R.exchange image lines = lines := by
  induction lines with
  | nil => exact exchange_nil
  | cons line later ih =>
    obtain ⟨none, rest⟩ := found_cons_eq_nil_iff.1 clear
    rw [exchange_of_none none, ih rest]

end PageDirectives.LineReader
