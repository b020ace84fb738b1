import PageDirectives.Proofs.Directive.Marked
import PageDirectives.Text.Escaped
/-!
Text behind the start of a line. A text is quiet if no line feed in it, and none in front of it, is
followed by a mark. Without the one in front the question passes to all parts of a text, and from
two texts to what they make together, unless a mark comes about where they meet.
-/
namespace PageDirectives.Directive

/-- A text in which no line behind the first starts with the mark of a directive. -/
def Calm (text : Text) : Prop := ¬ ('\n' :: mark) <:+: text

instance (text : Text) : Decidable (Calm text) := inferInstanceAs (Decidable (¬ _))

theorem Calm.of_isInfix {part text : Text} (calm : Calm text) (h : part <:+: text) : Calm part :=
  fun marked => calm (marked.trans h)

theorem isMarked_iff_isPrefix {text : Text} : isMarked text = true ↔ mark <+: text := by
  simp only [isMarked, Text.startsWith, Option.isSome_iff_exists, Text.after?_eq_some_iff]
  exact exists_congr fun rest => eq_comm

theorem calm_cons_iff {c : Char} {text : Text} :
    Calm (c :: text) ↔ (c = '\n' → isMarked text = false) ∧ Calm text := by
  rw [Calm, List.infix_cons_iff, not_or, List.cons_prefix_cons, ← isMarked_iff_isPrefix,
    not_and, Bool.not_eq_true]
  exact and_congr_left' ⟨fun h same => h same.symm, fun h same => h same.symm⟩

theorem calm_of_notMem {text : Text} (free : '\n' ∉ text) : Calm text :=
  fun marked => free (marked.subset List.mem_cons_self)

/-- What two calm texts make is calm if no mark comes about where they meet. -/
theorem calm_append {front back : Text} (hf : Calm front) (hb : Calm back)
    (feed : front.getLast? = some '\n' → isMarked back = false)
    (colon : front.getLast? = some ':' → back.head? ≠ some ':') : Calm (front ++ back) := by
  rw [Calm, List.infix_append_iff]
  rintro (inFront | inBack | ⟨left, right, cut, before, behind⟩)
  · exact hf inFront
  · exact hb inBack
  · -- a mark across the border has its line feed, or that and one colon, in front of it
    match left, cut with
    | [], cut =>
      rw [List.nil_append] at cut
      exact hb (cut ▸ behind.isInfix)
    | ['\n'], cut =>
      obtain rfl : mark = right := by simpa using cut
      obtain ⟨rest, rfl⟩ := before
      have := feed (by simp)
      rw [isMarked_iff_isPrefix.2 behind] at this
      exact Bool.noConfusion this
    | ['\n', ':'], cut =>
      obtain rfl : [':'] = right := by simpa [mark] using cut
      obtain ⟨rest, rfl⟩ := before
      obtain ⟨rest, rfl⟩ := behind
      exact colon (by simp) rfl
    | c :: d :: e :: left, cut =>
      obtain ⟨rfl, rfl, rfl, none⟩ : '\n' = c ∧ ':' = d ∧ ':' = e ∧ [] = left ++ right := by
        simpa [mark] using cut
      obtain ⟨rfl, rfl⟩ := List.append_eq_nil_iff.1 none.symm
      exact hf before.isInfix

/-- A text that goes on with other than a colon makes no mark with what stands in front of it. -/
theorem calm_append_of_head {front back : Text} (hf : Calm front) (hb : Calm back)
    (head : back.head? ≠ some ':') : Calm (front ++ back) := by
  refine calm_append hf hb (fun _ => ?_) fun _ => head
  refine Bool.eq_false_iff.2 fun marked => head ?_
  obtain ⟨rest, rfl⟩ := isMarked_iff_isPrefix.1 marked
  rfl

/-- Behind a character of a line other than a colon anything can stand. -/
theorem calm_append_of_last {front back : Text} {c : Char} (hf : Calm front) (hb : Calm back)
    (last : front.getLast? = some c) (inside : c ≠ '\n' ∧ c ≠ ':') : Calm (front ++ back) := by
  refine calm_append hf hb (fun feed => ?_) fun colon => ?_
  · exact absurd (Option.some.inj (last.symm.trans feed)) inside.1
  · exact absurd (Option.some.inj (last.symm.trans colon)) inside.2

theorem calm_append_feed_iff {front back : Text} :
    Calm (front ++ '\n' :: back) ↔ Calm front ∧ Calm ('\n' :: back) := by
  constructor
  · exact fun calm => ⟨calm.of_isInfix (List.prefix_append _ _).isInfix,
      calm.of_isInfix (List.suffix_append _ _).isInfix⟩
  · exact fun ⟨hf, hb⟩ => calm_append_of_head hf hb (by simp)

theorem quiet_iff_calm {text : Text} : Quiet text ↔ Calm ('\n' :: text) := by
  have each {ls : List Text} (h : Text.AreLines ls) :
      (∀ l ∈ ls, isMarked l = false) ↔ Calm (Text.afterLine ls) := by
    induction ls with
    | nil => exact iff_of_true (by simp) (by decide)
    | cons l ls ih =>
      obtain ⟨free, others⟩ := Text.areLines_cons.1 h
      have start : isMarked (l ++ Text.afterLine ls) = isMarked l := by
        rw [isMarked, isMarked, Text.startsWith, Text.startsWith, Text.after?_line (by decide),
          Option.isSome_map]
      have later : Calm (l ++ Text.afterLine ls) ↔ Calm (Text.afterLine ls) := by
        constructor
        · exact fun calm => calm.of_isInfix (List.suffix_append _ _).isInfix
        · refine fun calm => calm_append_of_head (calm_of_notMem free) calm ?_
          cases ls <;> simp [Text.afterLine_cons]
      rw [Text.afterLine_cons, Text.ofLines_cons, List.forall_mem_cons, ih others, calm_cons_iff,
        start, later]
      simp
  rw [Quiet, LineReader.Lacks, each (Text.areLines_lines text), Text.afterLine_lines]

theorem quiet_iff {text : Text} : Quiet text ↔ isMarked text = false ∧ Calm text := by
  rw [quiet_iff_calm, calm_cons_iff]
  simp

theorem calm_of_quiet {text : Text} (quiet : Quiet text) : Calm text := (quiet_iff.1 quiet).2

theorem quiet_append_feed_iff {front back : Text} :
    Quiet (front ++ '\n' :: back) ↔ Quiet front ∧ Quiet back := by
  rw [quiet_iff_calm, ← List.cons_append, calm_append_feed_iff, ← quiet_iff_calm,
    ← quiet_iff_calm]

/-- Behind whole lines a text begins with a line of its own. -/
theorem quiet_append_iff {front back : Text} (whole : front.getLast? = some '\n') :
    Quiet (front ++ back) ↔ Quiet front ∧ Quiet back := by
  obtain ⟨start, rfl⟩ := List.getLast?_eq_some_iff.1 whole
  rw [List.append_assoc, List.singleton_append, quiet_append_feed_iff, quiet_append_feed_iff]
  simp [quiet_nil]

/-- Of whole lines, and what stands behind them, each begins with a line of its own. -/
theorem quiet_flatten_append_iff {pieces : List Text} {last : Text}
    (whole : ∀ p ∈ pieces, p.getLast? = some '\n') :
    Quiet (pieces.flatten ++ last) ↔ (∀ p ∈ pieces, Quiet p) ∧ Quiet last := by
  induction pieces with
  | nil => simp
  | cons p pieces ih =>
    rw [List.forall_mem_cons] at whole
    rw [List.flatten_cons, List.append_assoc, quiet_append_iff whole.1, ih whole.2,
      List.forall_mem_cons, and_assoc]

theorem quiet_iff_of_calm {text : Text} (calm : Calm text) :
    Quiet text ↔ isMarked text = false := by
  rw [quiet_iff, and_iff_left calm]

theorem Quiet.of_isPrefix {front text : Text} (quiet : Quiet text) (h : front <+: text) :
    Quiet front := by
  rw [quiet_iff_calm] at quiet ⊢
  exact quiet.of_isInfix (List.cons_prefix_cons.2 ⟨rfl, h⟩).isInfix

section Markup

/-- Whether a text ends inside a line, and not with a colon. -/
def endsInside (text : Text) : Bool := text.getLast?.any fun c => c != '\n' && c != ':'

/-- Markup in front of a value: what follows it begins no line. -/
def Leads (text : Text) : Prop := Quiet text ∧ endsInside text = true

/-- Markup behind a value, which it neither continues to a mark nor begins a marked line. -/
def Follows (text : Text) : Prop := Calm text ∧ text.head? ≠ some ':'

/-- Whole lines without a mark. -/
def QuietLines (text : Text) : Prop := Quiet text ∧ text.getLast? = some '\n'

instance (text : Text) : Decidable (Leads text) := inferInstanceAs (Decidable (_ ∧ _))

instance (text : Text) : Decidable (Follows text) := inferInstanceAs (Decidable (_ ∧ _))

instance (text : Text) : Decidable (QuietLines text) := inferInstanceAs (Decidable (_ ∧ _))

variable {front value behind : Text}

theorem getLast?_append_of_eq_some {c : Char} (h : behind.getLast? = some c) (front : Text) :
    (front ++ behind).getLast? = some c := by
  rw [List.getLast?_append, h, Option.some_or]

theorem Leads.append (h : Leads front) (calm : Calm value) : Quiet (front ++ value) := by
  obtain ⟨c, last, other⟩ := (Option.any_eq_true _ _).1 h.2
  have last' : ('\n' :: front).getLast? = some c := getLast?_append_of_eq_some last ['\n']
  rw [quiet_iff_calm, ← List.cons_append]
  exact calm_append_of_last (quiet_iff_calm.1 h.1) calm last' (by simpa using other)

theorem quiet_append_iff_of_follows (h : Follows behind) :
    Quiet (value ++ behind) ↔ Quiet value := by
  refine ⟨fun quiet => quiet.of_isPrefix (List.prefix_append _ _), fun quiet => ?_⟩
  rw [quiet_iff_calm] at quiet ⊢
  exact calm_append_of_head quiet h.1 h.2

/-- A value between markup begins no line. -/
theorem Leads.around (h : Leads front) (calm : Calm value) (h' : Follows behind) :
    Quiet (front ++ value ++ behind) :=
  (quiet_append_iff_of_follows h').2 (h.append calm)

theorem Leads.next (h : Leads front) (calm : Calm value) (h' : Follows behind)
    (inside : endsInside behind = true) : Leads (front ++ value ++ behind) := by
  refine ⟨h.around calm h', ?_⟩
  obtain ⟨c, last, other⟩ := (Option.any_eq_true _ _).1 inside
  exact (Option.any_eq_true _ _).2 ⟨c, getLast?_append_of_eq_some last _, other⟩

theorem Leads.lines (h : Leads front) (calm : Calm value) (h' : Follows behind)
    (feed : behind.getLast? = some '\n') : QuietLines (front ++ value ++ behind) :=
  ⟨h.around calm h', getLast?_append_of_eq_some feed _⟩

theorem QuietLines.quiet_append (h : QuietLines front) (quiet : Quiet behind) :
    Quiet (front ++ behind) :=
  (quiet_append_iff h.2).2 ⟨h.1, quiet⟩

theorem QuietLines.append (h : QuietLines front) (h' : QuietLines behind) :
    QuietLines (front ++ behind) :=
  ⟨h.quiet_append h'.1, getLast?_append_of_eq_some h'.2 front⟩

end Markup

section Escaped

/-- A character that an attribute cannot hold becomes a reference, and all others stay. -/
theorem escapeAttribute_cases (c : Char) :
    Text.escapeAttribute c = [c] ∨
      '\n' ∉ Text.escapeAttribute c ∧ (Text.escapeAttribute c).head? = some '&' ∧
        (Text.escapeAttribute c).getLast? = some ';' := by
  unfold Text.escapeAttribute Text.escapeMarkup
  repeat' split
  all_goals first | exact .inl rfl | exact .inr (by decide)

theorem isMarked_asAttribute {text : Text} (unmarked : isMarked text = false) :
    isMarked (Text.asAttribute text) = false := by
  have reference {c : Char} (head : (Text.escapeAttribute c).head? = some '&') (rest : Text) :
      ∃ others, Text.escapeAttribute c ++ rest = '&' :: others := by
    obtain ⟨others, same⟩ := List.head?_eq_some_iff.1 head
    exact ⟨others ++ rest, by rw [same, List.cons_append]⟩
  rw [← Bool.not_eq_true, isMarked_iff_isPrefix] at unmarked ⊢
  rcases text with _ | ⟨c, _ | ⟨d, text⟩⟩
  · exact unmarked
  · rcases escapeAttribute_cases c with plain | ⟨-, head, -⟩
    · simpa [Text.asAttribute, plain] using unmarked
    · obtain ⟨others, same⟩ := reference head []
      rw [Text.asAttribute, List.flatMap_singleton, ← List.append_nil (Text.escapeAttribute c), same]
      simp [mark]
  · rcases escapeAttribute_cases c with plain | ⟨-, head, -⟩
    · rcases escapeAttribute_cases d with plain' | ⟨-, head, -⟩
      · simpa [Text.asAttribute, plain, plain', mark] using unmarked
      · obtain ⟨others, same⟩ := reference head (text.flatMap Text.escapeAttribute)
        rw [Text.asAttribute, List.flatMap_cons, List.flatMap_cons, same, plain]
        simp [mark]
    · obtain ⟨others, same⟩ := reference head ((d :: text).flatMap Text.escapeAttribute)
      rw [Text.asAttribute, List.flatMap_cons, same]
      simp [mark]

theorem calm_asAttribute {text : Text} (calm : Calm text) : Calm (Text.asAttribute text) := by
  induction text with
  | nil => exact calm
  | cons c text ih =>
    obtain ⟨start, rest⟩ := calm_cons_iff.1 calm
    rw [Text.asAttribute, List.flatMap_cons]
    rcases escapeAttribute_cases c with plain | ⟨free, -, last⟩
    · rw [plain, List.singleton_append, calm_cons_iff]
      exact ⟨fun feed => isMarked_asAttribute (start feed), ih rest⟩
    · exact calm_append_of_last (calm_of_notMem free) (ih rest) last (by decide)

end Escaped

end PageDirectives.Directive
