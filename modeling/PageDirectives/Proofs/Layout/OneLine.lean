import PageDirectives.Layout.Interactive
import PageDirectives.Layout.Note
import PageDirectives.Proofs.Text.Trimming
/-!
Parts of the markup of layouts that stay within one line. Numbers have no line feeds, and neither
have icons; case mappings, words and trimming bring none about that was not there before.
-/
namespace PageDirectives

namespace Integer

theorem newline_notMem_digitsOf (n : Nat) : '\n' ∉ digitsOf n :=
  fun feed => Bool.noConfusion (Nat.isDigit_of_mem_toDigits (by decide) (by decide) feed)

theorem newline_notMem_decimal (n : Int) : '\n' ∉ decimal n := by
  have digits := newline_notMem_digitsOf n.natAbs
  rw [decimal]
  split
  · exact fun feed => digits ((List.mem_cons.1 feed).resolve_left (by decide))
  · exact digits

theorem newline_notMem_of_write {n : Int} {text : Text} (h : write n = .ok text) :
    '\n' ∉ text := by
  rw [write] at h
  split at h
  · rw [← Except.ok.inj h]
    exact newline_notMem_decimal n
  · exact nomatch h

end Integer

namespace Text

/-- A number that names the line feed is its code. -/
theorem eq_of_ofNat_eq_feed {n : Nat} (h : Char.ofNat n = '\n') : n = 10 := by
  by_cases valid : n.isValidChar
  · rw [Char.ofNat, dif_pos valid] at h
    exact congrArg Char.toNat h
  · rw [Char.ofNat, dif_neg valid] at h
    exact absurd h (by decide)

theorem image?_ne_feed {runs : List CaseRun} (above : ∀ run ∈ runs, 10 < run.first + run.shift)
    {code image : Nat} (h : CaseRun.image? runs code = some image) : Char.ofNat image ≠ '\n' := by
  obtain ⟨run, found, rfl⟩ := Option.map_eq_some_iff.1 h
  have inside : run.first ≤ code := by
    have := List.find?_some found
    simp only [Bool.and_eq_true, decide_eq_true_eq] at this
    exact this.1.1
  have moved := above run (List.mem_of_find?_eq_some found)
  intro feed
  have := eq_of_ofNat_eq_feed feed
  omega

/-- A character moved by a table of runs that all lead above the line feed. -/
theorem getD_image?_ne_feed {runs : List CaseRun}
    (above : ∀ run ∈ runs, 10 < run.first + run.shift) {c : Char} (other : c ≠ '\n') :
    '\n' ≠ ((CaseRun.image? runs c.toNat).map Char.ofNat).getD c := by
  cases h : CaseRun.image? runs c.toNat with
  | none => exact Ne.symm other
  | some image => exact Ne.symm (image?_ne_feed above h)

theorem newline_notMem_lowerChar {c : Char} (other : c ≠ '\n') : '\n' ∉ lowerChar c := by
  have above : ∀ run ∈ lowerRuns, 10 < run.first + run.shift := by decide +kernel
  have ascii : ∀ n < 128, n ≠ 10 → '\n' ≠ (Char.ofNat n).toLower := by decide +kernel
  rw [lowerChar]
  split
  · next small =>
    have code : c.toNat ≠ 10 := fun h => other (by rw [← Char.ofNat_toNat c, h])
    have moved := ascii c.toNat small code
    rw [Char.ofNat_toNat] at moved
    exact fun feed => moved (List.mem_singleton.1 feed)
  · split
    · decide
    · exact fun feed => getD_image?_ne_feed above other (List.mem_singleton.1 feed)

theorem newline_notMem_upperChar {c : Char} (other : c ≠ '\n') : '\n' ∉ upperChar c := by
  have above : ∀ run ∈ upperRuns, 10 < run.first + run.shift := by decide +kernel
  have ascii : ∀ n < 128, n ≠ 10 → '\n' ≠ (Char.ofNat n).toUpper := by decide +kernel
  have expanded : ∀ e ∈ upperExpansions, '\n' ∉ e.2.map Char.ofNat := by decide +kernel
  rw [upperChar]
  split
  · next small =>
    have code : c.toNat ≠ 10 := fun h => other (by rw [← Char.ofNat_toNat c, h])
    have moved := ascii c.toNat small code
    rw [Char.ofNat_toNat] at moved
    exact fun feed => moved (List.mem_singleton.1 feed)
  · split
    · next found => exact expanded _ (List.mem_of_find?_eq_some found)
    · exact fun feed => getD_image?_ne_feed above other (List.mem_singleton.1 feed)

theorem newline_notMem_lower {text : Text} (free : '\n' ∉ text) : '\n' ∉ lower text := by
  have each (before : Text) : '\n' ∉ lowerFrom before text := by
    induction text generalizing before with
    | nil => exact List.not_mem_nil
    | cons c text ih =>
      rw [List.mem_cons, not_or] at free
      have first : '\n' ∉ (if c == 'Σ' then
          [if casedNext before && !casedNext text then 'ς' else 'σ'] else lowerChar c) := by
        split
        · split <;> decide
        · exact newline_notMem_lowerChar (Ne.symm free.1)
      rw [lowerFrom, List.mem_append, not_or]
      exact ⟨first, ih free.2 _⟩
  exact each []

theorem newline_notMem_trim {text : Text} (free : '\n' ∉ text) : '\n' ∉ trim text :=
  fun feed => free ((trim_isInfix text).subset feed)

theorem newline_notMem_words {text : Text} (free : '\n' ∉ text) :
    ∀ word ∈ words text, '\n' ∉ word := by
  fun_induction words text with
  | case1 => simp
  | case2 c text _ ih => exact ih fun feed => free (List.mem_cons_of_mem c feed)
  | case3 c text _ _ ih =>
    have first : '\n' ∉ c :: text.takeWhile (!isBlank ·) := fun feed =>
      free (List.cons_subset_cons c (List.takeWhile_sublist _).subset feed)
    refine List.forall_mem_cons.2 ⟨first, ih fun feed => free ?_⟩
    exact List.mem_cons_of_mem c ((List.dropWhile_sublist _).subset feed)

theorem newline_notMem_orElse {text otherwise : Text} (free : '\n' ∉ text)
    (free' : '\n' ∉ otherwise) : '\n' ∉ orElse (some text) otherwise := by
  cases text with
  | nil => exact free'
  | cons c rest => exact free

end Text

namespace Icon

/-- A literal is compared as it is written, without reading it from its bytes. -/
theorem newline_notMem_literal {characters : Text} (free : '\n' ∉ characters) :
    '\n' ∉ (String.ofList characters).toList := by
  rwa [String.toList_ofList]

theorem newline_notMem_drawings :
    ∀ d ∈ drawings, ∀ s ∈ d.shapes, ∀ a ∈ s.attributes, '\n' ∉ a.2 := by
  simp only [drawings, path, List.forall_mem_cons, List.not_mem_nil, false_imp_iff, implies_true,
    and_true, List.mem_append, not_or, -String.reduceToList]
  repeat' apply And.intro
  all_goals exact newline_notMem_literal (by decide +kernel)

theorem newline_notMem_attributeMarkup {a : Text × Text} (key : '\n' ∉ a.1) (value : '\n' ∉ a.2) :
    '\n' ∉ attributeMarkup a := by
  simp [attributeMarkup, key, value]

theorem newline_notMem_markup (name : Text) : '\n' ∉ markup name := by
  have named : ∀ d ∈ drawings, '\n' ∉ d.name ∧
      ∀ s ∈ d.shapes, '\n' ∉ s.element ∧ ∀ a ∈ s.attributes, '\n' ∉ a.1 := by decide +kernel
  have framed : '\n' ∉ frame.flatMap attributeMarkup := by decide +kernel
  have drawn : ∀ d ∈ drawings, '\n' ∉ d.markup := by
    intro d hd
    have shapes : '\n' ∉ d.shapes.flatMap Shape.markup := by
      intro feed
      obtain ⟨s, hs, feed⟩ := List.mem_flatMap.1 feed
      have attributes : '\n' ∉ s.attributes.flatMap attributeMarkup := by
        intro feed
        obtain ⟨a, ha, feed⟩ := List.mem_flatMap.1 feed
        exact newline_notMem_attributeMarkup (((named d hd).2 s hs).2 a ha)
          (newline_notMem_drawings d hd s hs a ha) feed
      simp [Shape.markup, ((named d hd).2 s hs).1, attributes] at feed
    have class' := newline_notMem_attributeMarkup (a := ("class", "lucide lucide-" ++ d.name))
      (show '\n' ∉ ("class" : Text) by decide) (by simpa using (named d hd).1)
    change '\n' ∉ _ ++ _ ++ _ ++ _ ++ _ ++ _
    simp only [List.mem_append, not_or, -String.reduceToList]
    exact ⟨⟨⟨⟨⟨by decide, framed⟩, class'⟩, by decide⟩, shapes⟩, by decide⟩
  rw [markup]
  split
  · next found =>
    rw [drawing?] at found
    exact drawn _ (List.mem_of_find?_eq_some found)
  · cases default' : drawing? defaultKind with
    | none => exact List.not_mem_nil
    | some d =>
      rw [drawing?] at default'
      exact drawn d (List.mem_of_find?_eq_some default')

end Icon

namespace Layout

theorem newline_notMem_capitalised {text : Text} (free : '\n' ∉ text) :
    '\n' ∉ capitalised text := by
  cases text with
  | nil => exact free
  | cons c rest =>
    rw [List.mem_cons, not_or] at free
    rw [capitalised, Text.upper, List.flatMap_singleton, List.mem_append, not_or]
    exact ⟨Text.newline_notMem_upperChar (Ne.symm free.1), free.2⟩

theorem newline_notMem_variantClass {cssClass separator variant : Text} (free : '\n' ∉ cssClass)
    (free' : '\n' ∉ separator) (free'' : '\n' ∉ variant) :
    '\n' ∉ variantClass cssClass separator variant := by
  rw [variantClass]
  split
  · exact free
  · simp [free, free', free'']

end Layout
end PageDirectives
