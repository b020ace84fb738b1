import PageDirectives.Condition
import PageDirectives.Proofs.Text.Cuts
import PageDirectives.Proofs.Text.Trimming
/-!
Comparisons with a text in quotes. A key without characters of operators leaves the first operator
of a condition to the one behind it, and what follows is trimmed outside of the quotes only. So the
text between them is compared as it stands, whatever it holds. An inequality is looked for after
equality, which is why its text must not hold the other operator.
-/
namespace PageDirectives

namespace Text

theorem trimStart_of_trim_eq {text : Text} (trimmed : trim text = text) :
    trimStart text = text := by
  have le := (trimEnd_isPrefix (trimStart text)).length_le
  rw [← trim, trimmed] at le
  exact (trimStart_isSuffix text).eq_of_length_le le

/-- Trimming leaves a text alone whose two ends it leaves alone. -/
theorem trim_between {front back : Text} (ne : front ≠ []) (start : trimStart front = front)
    (ne' : back ≠ []) (stop : trimEnd back = back) (middle : Text) :
    trim (front ++ (middle ++ back)) = front ++ (middle ++ back) := by
  rw [trim, trimStart_append (by rwa [start]), start, ← List.append_assoc,
    trimEnd_append _ (by rwa [stop]), stop]

/-- Two characters follow each other in no more places if characters other than the first of them
stand in front. -/
theorem not_pair_infix_append {a b : Char} {front back : Text} (free : a ∉ front)
    (apart : ¬ [a, b] <:+: back) : ¬ [a, b] <:+: front ++ back := by
  induction front with
  | nil => exact apart
  | cons c front ih =>
    rw [List.mem_cons, not_or] at free
    rw [List.cons_append, List.infix_cons_iff, not_or]
    exact ⟨fun first => free.1 (List.cons_prefix_cons.1 first).1, ih free.2⟩

theorem cut?_of_notMem {mark text : Text} {c : Char} (mem : c ∈ mark) (free : c ∉ text) :
    cut? mark text = none :=
  cut?_eq_none_iff.2 fun inside => free (inside.subset mem)

end Text

namespace Condition

/-- A key that a condition can ask for: it is not empty, has no blanks around it and no character
of an operator. -/
structure IsKey (key : Text) : Prop where
  ne : key ≠ []
  trimmed : Text.trim key = key
  plain : ∀ c ∈ key, c ∉ ['!', '=', '<', '>']

/-- A text between two quotes of one kind. -/
def quoted (quote : Char) (s : Text) : Text := quote :: (s ++ [quote])

/-- A key and a text in quotes with an operator between them, and blanks around that. -/
def compared (key before operator after : Text) (quote : Char) (s : Text) : Text :=
  key ++ before ++ (operator ++ (after ++ quoted quote s))

variable {key before after : Text} {quote : Char}

theorem IsKey.notMem (isKey : IsKey key) {c : Char} (mem : c ∈ ['!', '=', '<', '>']) : c ∉ key :=
  fun inside => isKey.plain c inside mem

theorem IsKey.notMem_append (isKey : IsKey key) (blank : ∀ c ∈ before, Text.isBlank c = true)
    {c : Char} (mem : c ∈ ['!', '=', '<', '>']) : c ∉ key ++ before := by
  have filled : (['!', '=', '<', '>'].all (!Text.isBlank ·)) = true := by decide
  rw [List.mem_append, not_or]
  refine ⟨isKey.notMem mem, fun inside => ?_⟩
  have solid := List.all_eq_true.1 filled c mem
  rw [blank c inside] at solid
  exact nomatch solid

/-- A condition that starts with a key is no negation. -/
theorem IsKey.ofText_append (isKey : IsKey key) (rest : Text)
    (trimmed : Text.trim (key ++ rest) = key ++ rest) :
    Test.ofText (key ++ rest) =
      match Text.cut? ['=', '='] (key ++ rest) with
      | some (key, expected) => .equal (Text.trim key) (unquote expected)
      | none =>
        match Text.cut? ['!', '='] (key ++ rest) with
        | some (key, expected) => .unequal (Text.trim key) (unquote expected)
        | none =>
          match Text.cut? ['>'] (key ++ rest) with
          | some (key, limit) => .above (Text.trim key) limit
          | none =>
            match Text.cut? ['<'] (key ++ rest) with
            | some (key, limit) => .below (Text.trim key) limit
            | none => .present (key ++ rest) := by
  obtain ⟨c, others, rfl⟩ := List.exists_cons_of_ne_nil isKey.ne
  have other : c ≠ '!' := fun same => isKey.plain c List.mem_cons_self (by simp [same])
  rw [Test.ofText, trimmed, List.cons_append]
  split
  · next empty => simp at empty
  · next negation => exact absurd (List.cons.inj negation).1 other
  · rfl

theorem isBlank_quote (isQuote : quote = '"' ∨ quote = '\'') : Text.isBlank quote = false := by
  rcases isQuote with rfl | rfl <;> rfl

theorem trimEnd_quote (isQuote : quote = '"' ∨ quote = '\'') :
    Text.trimEnd [quote] = [quote] :=
  Text.trimEnd_of_unbroken fun c hc => by
    rw [List.mem_singleton.1 hc]
    exact isBlank_quote isQuote

theorem trim_quoted (isQuote : quote = '"' ∨ quote = '\'') (s : Text) :
    Text.trim (quoted quote s) = quoted quote s := by
  refine Text.trim_between (List.cons_ne_nil quote []) (Text.trimStart_of_unbroken fun c hc => ?_)
    (List.cons_ne_nil quote []) (trimEnd_quote isQuote) s
  rw [List.mem_singleton.1 hc]
  exact isBlank_quote isQuote

theorem unquote_quoted (isQuote : quote = '"' ∨ quote = '\'')
    (blank : ∀ c ∈ after, Text.isBlank c = true) (s : Text) :
    unquote (after ++ quoted quote s) = s := by
  rw [unquote, Text.trim_blank_append blank, trim_quoted isQuote]
  simp [quoted, isQuote]

theorem IsKey.trim_compared (isKey : IsKey key) (isQuote : quote = '"' ∨ quote = '\'')
    (operator s : Text) :
    Text.trim (compared key before operator after quote s) =
      compared key before operator after quote s := by
  have grouped : compared key before operator after quote s =
      key ++ (before ++ operator ++ after ++ quote :: s ++ [quote]) := by
    simp [compared, quoted]
  rw [grouped]
  exact Text.trim_between isKey.ne (Text.trimStart_of_trim_eq isKey.trimmed)
    (List.cons_ne_nil quote []) (trimEnd_quote isQuote) _

theorem IsKey.ofText_equal (isKey : IsKey key) (isQuote : quote = '"' ∨ quote = '\'')
    (blank : ∀ c ∈ before, Text.isBlank c = true) (blankAfter : ∀ c ∈ after, Text.isBlank c = true)
    (s : Text) : Test.ofText (compared key before ['=', '='] after quote s) = .equal key s := by
  have first : ¬ ['=', '='] <:+: (key ++ before) ++ ['=', '='].dropLast :=
    Text.not_pair_infix_append (isKey.notMem_append blank (by simp))
      fun inside => absurd inside.length_le (by decide)
  have trimmed : Text.trim (compared key before ['=', '='] after quote s) = _ :=
    isKey.trim_compared isQuote ['=', '='] s
  have cut := Text.cut?_append first (after ++ quoted quote s)
  rw [compared, List.append_assoc key] at trimmed ⊢
  rw [List.append_assoc key] at cut
  rw [isKey.ofText_append _ trimmed, cut]
  simp only [Text.trim_append_blank blank, isKey.trimmed, unquote_quoted isQuote blankAfter]

theorem not_equals_infix_quoted (isQuote : quote = '"' ∨ quote = '\'') {s : Text}
    (apart : ¬ ['=', '='] <:+: s) : ¬ ['=', '='] <:+: quoted quote s := by
  have other : '=' ≠ quote := by rcases isQuote with rfl | rfl <;> decide
  change ¬ ['=', '='] <:+: [quote] ++ (s ++ [quote])
  refine Text.not_pair_infix_append (by simpa using other) ?_
  rw [List.infix_concat_iff, not_or]
  refine ⟨fun ends => other ?_, apart⟩
  obtain ⟨front, same⟩ := ends
  have cut : front ++ ['='] ++ ['='] = s ++ [quote] := by simpa using same
  exact List.singleton_inj.1 (List.append_inj' cut rfl).2

theorem IsKey.ofText_unequal (isKey : IsKey key) (isQuote : quote = '"' ∨ quote = '\'')
    (blank : ∀ c ∈ before, Text.isBlank c = true) (blankAfter : ∀ c ∈ after, Text.isBlank c = true)
    {s : Text} (apart : ¬ ['=', '='] <:+: s) :
    Test.ofText (compared key before ['!', '='] after quote s) = .unequal key s := by
  have behind : ¬ ['=', '='] <:+: after ++ quoted quote s := by
    refine Text.not_pair_infix_append (fun inside => ?_) (not_equals_infix_quoted isQuote apart)
    exact Bool.noConfusion (blankAfter '=' inside)
  have noEquals : ¬ ['=', '='] <:+: compared key before ['!', '='] after quote s := by
    have grouped : compared key before ['!', '='] after quote s =
        (key ++ before ++ ['!']) ++ '=' :: (after ++ quoted quote s) := by simp [compared]
    rw [grouped]
    refine Text.not_pair_infix_append ?_ ?_
    · rw [List.mem_append, not_or]
      exact ⟨isKey.notMem_append blank (by simp), by decide⟩
    · rw [List.infix_cons_iff, not_or]
      refine ⟨fun starts => ?_, behind⟩
      obtain ⟨rest, same⟩ := (List.cons_prefix_cons.1 starts).2
      cases after with
      | nil =>
        have same : '=' = quote := (List.cons.inj same).1
        rcases isQuote with rfl | rfl <;> exact absurd same (by decide)
      | cons c after =>
        obtain rfl : '=' = c := (List.cons.inj same).1
        exact Bool.noConfusion (blankAfter '=' List.mem_cons_self)
  have first : ¬ ['!', '='] <:+: (key ++ before) ++ ['!', '='].dropLast := fun inside =>
    (List.mem_append.1 (inside.subset (by simp : '=' ∈ ['!', '=']))).elim
      (isKey.notMem_append blank (by simp)) (by decide)
  have trimmed : Text.trim (compared key before ['!', '='] after quote s) = _ :=
    isKey.trim_compared isQuote ['!', '='] s
  have cut := Text.cut?_append first (after ++ quoted quote s)
  have none := Text.cut?_eq_none_iff.2 noEquals
  rw [compared, List.append_assoc key] at trimmed none ⊢
  rw [List.append_assoc key] at cut
  rw [isKey.ofText_append _ trimmed, none, cut]
  simp only [Text.trim_append_blank blank, isKey.trimmed, unquote_quoted isQuote blankAfter]

theorem IsKey.ofText_self (isKey : IsKey key) : Test.ofText key = .present key := by
  have none {mark : Text} {c : Char} (mem : c ∈ mark) (operator : c ∈ ['!', '=', '<', '>']) :
      Text.cut? mark key = none :=
    Text.cut?_of_notMem mem (isKey.notMem operator)
  have shape := isKey.ofText_append [] (by rw [List.append_nil, isKey.trimmed])
  rw [List.append_nil, none (c := '=') (by decide) (by decide),
    none (c := '!') (by decide) (by decide), none (c := '>') (by decide) (by decide),
    none (c := '<') (by decide) (by decide)] at shape
  exact shape

theorem IsKey.ofText_negated (isKey : IsKey key) (blank : ∀ c ∈ before, Text.isBlank c = true) :
    Test.ofText ('!' :: (before ++ key)) = .absent key := by
  have trimmed : Text.trim ('!' :: (before ++ key)) = '!' :: (before ++ key) :=
    Text.trim_between (List.cons_ne_nil '!' []) (by decide) isKey.ne
      (Text.trimEnd_of_trim_eq isKey.trimmed) before
  rw [Test.ofText, trimmed]
  simp only [Text.trim_blank_append blank, isKey.trimmed]

theorem operandText_look_head (key s : Text) (rest : Entries) :
    operandText (look ((.text key, .text s) :: rest) key) = .ok s := by
  simp [look, Entries.at?, Entries.get?, Value.sameKey, Value.number?, Operand.ofEntry,
    operandText, asText, Value.display]

/-- A key is compared with a text in quotes as it stands, by the text of what page data has under
the key. The inequality is the negation of the equality, as long as its text holds no equality
itself, and a negated key that of the bare key. -/
theorem holds_compared (isKey : IsKey key) (isQuote : quote = '"' ∨ quote = '\'')
    (blank : ∀ c ∈ before, Text.isBlank c = true) (blankAfter : ∀ c ∈ after, Text.isBlank c = true)
    (page : Entries) (s : Text) :
    let equal := holds (compared key before ['=', '='] after quote s) page
    equal = (operandText (look page key)).map (fun t => decide (t = s)) ∧
      (¬ ['=', '='] <:+: s →
        holds (compared key before ['!', '='] after quote s) page = equal.map (!·)) ∧
      ∃ b, holds key page = .ok b ∧ holds ('!' :: (before ++ key)) page = .ok !b := by
  intro equal
  have equality : equal = (operandText (look page key)).map (fun t => decide (t = s)) := by
    simp only [equal, holds, isKey.ofText_equal isQuote blank blankAfter, Test.holds,
      beq_eq_decide]
  refine ⟨equality, fun apart => ?_, operandHolds (look page key), ?_, ?_⟩
  · rw [equality, holds, isKey.ofText_unequal isQuote blank blankAfter apart, Test.holds]
    cases operandText (look page key) with
    | error e => rfl
    | ok t => exact congrArg (fun b => Except.ok !b) (beq_eq_decide t s)
  · rw [holds, isKey.ofText_self, Test.holds]
  · rw [holds, isKey.ofText_negated blank, Test.holds]

/-- The text between the quotes holds quotes, operators, a line feed and blanks at both ends. -/
theorem holds_compared_of_operators :
    let s : Text := " x != 'y' > \"z\" = !\n"
    let page : Entries := [(.text "state", .text s)]
    (IsKey "state" ∧ ('"' = '"' ∨ '"' = '\'') ∧ (∀ c ∈ [' '], Text.isBlank c = true) ∧
        (∀ c ∈ ['\t'], Text.isBlank c = true) ∧ ¬ ['=', '='] <:+: s) ∧
      holds (compared "state" [' '] ['=', '='] ['\t'] '"' s) page = .ok true ∧
      holds (compared "state" [' '] ['!', '='] ['\t'] '"' s) page = .ok false ∧
      ∃ b, holds "state" page = .ok b ∧ holds "! state" page = .ok !b := by
  intro s page
  have isKey : IsKey "state" := by
    refine ⟨by decide, by decide, ?_⟩
    simp
  have isQuote : '"' = '"' ∨ '"' = '\'' := .inl rfl
  have blank : ∀ c ∈ [' '], Text.isBlank c = true := List.forall_mem_singleton.2 rfl
  have blankAfter : ∀ c ∈ ['\t'], Text.isBlank c = true := List.forall_mem_singleton.2 rfl
  have apart : ¬ ['=', '='] <:+: s := Text.cut?_eq_none_iff.1 (by decide)
  obtain ⟨equal, unequal, bare⟩ := holds_compared isKey isQuote blank blankAfter page s
  have text : operandText (look page "state") = .ok s := operandText_look_head "state" s []
  rw [text] at equal
  refine ⟨⟨isKey, isQuote, blank, blankAfter, apart⟩, equal.trans ?_,
    (unequal apart).trans ?_, bare⟩
  · exact congrArg Except.ok (decide_eq_true rfl)
  · rw [equal]
    exact congrArg (fun b => Except.ok !b) (decide_eq_true rfl)

end Condition
end PageDirectives
