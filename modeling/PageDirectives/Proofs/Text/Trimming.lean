import Mathlib.Data.List.DropRight
import PageDirectives.Text.Blank
/-!
Trimming takes blanks from both ends and nothing else. Blanks around a text make no difference to
it, and where a text has other characters, trimming one of its ends leaves what follows or stands
before as it is.
-/
namespace PageDirectives.Text

theorem trimStart_isSuffix (text : Text) : trimStart text <:+ text := List.dropWhile_suffix _

theorem trimEnd_isPrefix (text : Text) : trimEnd text <+: text := by
  rw [trimEnd, ← List.reverse_suffix, List.reverse_reverse]
  exact List.dropWhile_suffix _

theorem trim_isInfix (text : Text) : trim text <:+: text :=
  (trimEnd_isPrefix _).isInfix.trans (trimStart_isSuffix text).isInfix

theorem trimStart_eq_nil_iff {text : Text} :
    trimStart text = [] ↔ ∀ c ∈ text, isBlank c = true :=
  List.dropWhile_eq_nil_iff

theorem trimEnd_eq_nil_iff {text : Text} : trimEnd text = [] ↔ ∀ c ∈ text, isBlank c = true := by
  rw [trimEnd, List.reverse_eq_nil_iff, List.dropWhile_eq_nil_iff]
  simp

theorem trimStart_append {front : Text} (filled : trimStart front ≠ []) (back : Text) :
    trimStart (front ++ back) = trimStart front ++ back := by
  rw [trimStart, List.dropWhile_append, if_neg (by simpa [trimStart] using filled)]
  rfl

theorem trimEnd_append (front : Text) {back : Text} (filled : trimEnd back ≠ []) :
    trimEnd (front ++ back) = front ++ trimEnd back := by
  rw [trimEnd, List.reverse_append, List.dropWhile_append,
    if_neg (by simpa [trimEnd] using filled), List.reverse_append, List.reverse_reverse]
  rfl

theorem exists_trimStart (text : Text) :
    ∃ blanks, (∀ c ∈ blanks, isBlank c = true) ∧ text = blanks ++ trimStart text :=
  ⟨text.takeWhile isBlank, List.all_eq_true.1 List.all_takeWhile,
    List.takeWhile_append_dropWhile.symm⟩

theorem exists_trimEnd (text : Text) :
    ∃ blanks, (∀ c ∈ blanks, isBlank c = true) ∧ text = trimEnd text ++ blanks := by
  obtain ⟨blanks, blank, cut⟩ := exists_trimStart text.reverse
  refine ⟨blanks.reverse, fun c hc => blank c (List.mem_reverse.1 hc), ?_⟩
  rw [trimEnd, ← List.reverse_append]
  exact (List.reverse_eq_iff.1 cut)

/-- Trimming takes the blanks in front and some blanks at the end. -/
theorem exists_trim (text : Text) :
    ∃ back, (∀ c ∈ back, isBlank c = true) ∧
      text = text.takeWhile isBlank ++ trim text ++ back := by
  obtain ⟨back, blank, cut⟩ := exists_trimEnd (trimStart text)
  refine ⟨back, blank, ?_⟩
  rw [List.append_assoc, trim, ← cut]
  exact List.takeWhile_append_dropWhile.symm

theorem not_prefix_trimStart {blanks : Text} (ne : blanks ≠ [])
    (blank : ∀ c ∈ blanks, isBlank c = true) (text : Text) : ¬ blanks <+: trimStart text := by
  obtain ⟨c, rest, rfl⟩ := List.exists_cons_of_ne_nil ne
  rintro ⟨back, same⟩
  have first := List.head?_dropWhile_not isBlank text
  rw [← trimStart, ← same] at first
  exact Bool.noConfusion ((blank c List.mem_cons_self).symm.trans first)

theorem not_suffix_trimEnd {blanks : Text} (ne : blanks ≠ [])
    (blank : ∀ c ∈ blanks, isBlank c = true) (text : Text) : ¬ blanks <:+ trimEnd text := by
  intro ends
  refine not_prefix_trimStart (List.reverse_ne_nil_iff.2 ne)
    (fun c hc => blank c (List.mem_reverse.1 hc)) text.reverse ?_
  rwa [trimEnd, ← trimStart, ← List.reverse_prefix, List.reverse_reverse] at ends

theorem trimStart_blank_append {blanks : Text} (blank : ∀ c ∈ blanks, isBlank c = true)
    (text : Text) : trimStart (blanks ++ text) = trimStart text :=
  List.dropWhile_append_of_pos blank

theorem trimEnd_append_blank {blanks : Text} (blank : ∀ c ∈ blanks, isBlank c = true)
    (text : Text) : trimEnd (text ++ blanks) = trimEnd text := by
  rw [trimEnd, List.reverse_append, List.dropWhile_append_of_pos fun c hc =>
    blank c (List.mem_reverse.1 hc)]
  rfl

theorem trim_eq_nil_iff {text : Text} : trim text = [] ↔ ∀ c ∈ text, isBlank c = true := by
  rw [trim, trimEnd_eq_nil_iff]
  constructor
  · intro blank
    obtain ⟨blanks, front, cut⟩ := exists_trimStart text
    rw [cut]
    exact fun c hc => (List.mem_append.1 hc).elim (front c) (blank c)
  · exact fun blank c hc => blank c ((trimStart_isSuffix text).subset hc)

/-- A text with a character other than a blank keeps something of it. -/
theorem trim_ne_nil {text : Text} {c : Char} (mem : c ∈ text) (h : isBlank c = false) :
    trim text ≠ [] :=
  fun none => Bool.noConfusion ((trim_eq_nil_iff.1 none c mem).symm.trans h)

theorem trim_trimStart (text : Text) : trim (trimStart text) = trim text := by
  rw [trim, trimStart, trimStart, List.dropWhile_idempotent]
  rfl

theorem trim_append_blank {blanks : Text} (blank : ∀ c ∈ blanks, isBlank c = true)
    (text : Text) : trim (text ++ blanks) = trim text := by
  by_cases filled : trimStart text = []
  · have all : ∀ c ∈ text ++ blanks, isBlank c = true := fun c hc =>
      (List.mem_append.1 hc).elim (trimStart_eq_nil_iff.1 filled c) (blank c)
    rw [trim_eq_nil_iff.2 all, trim_eq_nil_iff.2 (trimStart_eq_nil_iff.1 filled)]
  · rw [trim, trimStart_append filled, trimEnd_append_blank blank, trim]

theorem trim_blank_append {blanks : Text} (blank : ∀ c ∈ blanks, isBlank c = true)
    (text : Text) : trim (blanks ++ text) = trim text := by
  rw [trim, trimStart_blank_append blank, trim]

theorem trim_trimEnd (text : Text) : trim (trimEnd text) = trim text := by
  obtain ⟨blanks, blank, cut⟩ := exists_trimEnd text
  have trimmed := trim_append_blank blank (trimEnd text)
  rw [← cut] at trimmed
  exact trimmed.symm

theorem trimStart_of_unbroken {text : Text} (unbroken : ∀ c ∈ text, isBlank c = false) :
    trimStart text = text := by
  cases text with
  | nil => rfl
  | cons c rest =>
    rw [trimStart, List.dropWhile_cons_of_neg]
    simp [unbroken c List.mem_cons_self]

theorem trimEnd_of_unbroken {text : Text} (unbroken : ∀ c ∈ text, isBlank c = false) :
    trimEnd text = text := by
  have backwards : trimStart text.reverse = text.reverse :=
    trimStart_of_unbroken fun c hc => unbroken c (List.mem_reverse.1 hc)
  rw [trimEnd, ← trimStart, backwards, List.reverse_reverse]

theorem trimEnd_of_trim_eq {text : Text} (trimmed : trim text = text) : trimEnd text = text := by
  have again : trimEnd (trim text) = trim text := by
    simp only [trim, trimEnd, List.reverse_reverse, List.dropWhile_idempotent]
  rwa [trimmed] at again

/-- Trimming a part of a text leaves a part of the trimmed text. -/
theorem trimStart_isInfix {part text : Text} (h : part <:+: text) :
    trimStart part <:+: trimStart text := by
  obtain ⟨front, back, rfl⟩ := h
  rw [List.append_assoc]
  by_cases filled : trimStart part = []
  · rw [filled]
    exact List.nil_infix
  · by_cases blank : trimStart front = []
    · rw [trimStart_blank_append (trimStart_eq_nil_iff.1 blank), trimStart_append filled]
      exact (List.prefix_append _ back).isInfix
    · rw [trimStart_append blank]
      exact (trimStart_isSuffix part).isInfix.trans
        ((List.prefix_append part back).isInfix.trans (List.suffix_append _ _).isInfix)

theorem trimEnd_isInfix {part text : Text} (h : part <:+: text) : trimEnd part <:+: trimEnd text :=
  List.reverse_infix.2 (trimStart_isInfix (List.reverse_infix.2 h))

theorem trim_isInfix_trim {part text : Text} (h : part <:+: text) : trim part <:+: trim text :=
  trimEnd_isInfix (trimStart_isInfix h)

end PageDirectives.Text
