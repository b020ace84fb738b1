import PageDirectives.Proofs.Text.LineSpans
/-!
Two readers of lines in one search. If one of them takes single lines, trying it at each line where
the other reads nothing finds the same forms as two searches of the whole text, where what the
single-line reader finds counts only if it does not begin inside a form of the other.
-/
namespace PageDirectives

namespace LineReader

variable {α : Type} {R Q : LineReader α}

/-- Reads what the first of two readers reads at a line, or else what the second one does. -/
def orElse (R Q : LineReader α) : LineReader α := fun line later =>
  (R line later).or (Q line later)

/-- Reads single lines. -/
def ofLine (f : Text → Option α) : LineReader α := fun line _ => (f line).map (·, 0)

section SingleLines

variable {f : Text → Option α}

theorem ofLine_allFrom_cons (offset : Nat) (line : Text) (later : List Text) :
    (ofLine f).allFrom offset (line :: later) =
      ((f line).map fun a => ⟨offset, offset + line.length, a⟩).toList ++
        (ofLine f).allFrom (offset + line.length + 1) later := by
  rw [allFrom]
  cases h : f line <;> simp [ofLine, h, Text.ofLines_cons]

theorem ofLine_allFrom_append (offset : Nat) (front rest : List Text) :
    (ofLine f).allFrom offset (front ++ rest) = (ofLine f).allFrom offset front ++
      (ofLine f).allFrom (offset + (Text.afterLine front).length) rest := by
  induction front generalizing offset with
  | nil => simp [allFrom]
  | cons line front ih =>
    have shift : offset + (Text.afterLine (line :: front)).length =
        offset + line.length + 1 + (Text.afterLine front).length := by
      rw [Text.length_afterLine_cons]
      omega
    rw [List.cons_append, ofLine_allFrom_cons, ofLine_allFrom_cons, ih, shift, List.append_assoc]

/-- A single line that is read is found where it stands. -/
theorem mem_ofLine_allFrom {line : Text} {a : α} (read : f line = some a) (offset : Nat)
    (front rest : List Text) :
    ∃ s ∈ (ofLine f).allFrom offset (front ++ line :: rest),
      s.start = offset + (Text.beforeLine front).length ∧ s.found = a := by
  rw [ofLine_allFrom_append, ofLine_allFrom_cons, read, Text.length_beforeLine]
  exact ⟨_, List.mem_append_right _ List.mem_cons_self, rfl, rfl⟩

/-- Where single lines are exchanged, those above and those below make no difference to each other. -/
theorem ofLine_exchange_append (image : α → Text) (front rest : List Text) :
    (ofLine f).exchange image (front ++ rest) =
      (ofLine f).exchange image front ++ (ofLine f).exchange image rest := by
  induction front with
  | nil => rw [exchange_nil, List.nil_append, List.nil_append]
  | cons line front ih =>
    cases h : f line with
    | none =>
      have unread (later : List Text) : ofLine f line later = none := by rw [ofLine, h]; rfl
      rw [List.cons_append, exchange_of_none (unread _), exchange_of_none (unread _), ih,
        List.cons_append]
    | some a =>
      have read (later : List Text) : ofLine f line later = some (a, 0) := by rw [ofLine, h]; rfl
      rw [List.cons_append, exchange_of_some (read _), exchange_of_some (read _), List.drop_zero,
        List.drop_zero, ih, List.append_assoc]

end SingleLines

/-- Those of some forms that do not begin inside any of others. -/
def outside (spans hits : List (Located α)) : List (Located α) :=
  hits.filter fun hit => !spans.any fun span => span.start ≤ hit.start && hit.start < span.stop

theorem outside_append (spans first second : List (Located α)) :
    outside spans (first ++ second) = outside spans first ++ outside spans second :=
  List.filter_append ..

theorem outside_of_before {spans hits : List (Located α)}
    (h : ∀ hit ∈ hits, ∀ span ∈ spans, hit.start < span.start) : outside spans hits = hits := by
  rw [outside, List.filter_eq_self]
  intro hit hhit
  simp only [Bool.not_eq_true', List.any_eq_false, Bool.and_eq_true, decide_eq_true_eq, not_and]
  intro span hspan le
  have := h hit hhit span hspan
  omega

theorem outside_cons_of_behind {span : Located α} {spans hits : List (Located α)}
    (h : ∀ hit ∈ hits, span.stop ≤ hit.start) :
    outside (span :: spans) hits = outside spans hits := by
  refine List.filter_congr fun hit hhit => ?_
  have : ¬ hit.start < span.stop := Nat.not_lt.2 (h hit hhit)
  simp [this]

theorem outside_cons_of_inside {span : Located α} (spans : List (Located α))
    {hits : List (Located α)}
    (h : ∀ hit ∈ hits, span.start ≤ hit.start ∧ hit.start < span.stop) :
    outside (span :: spans) hits = [] := by
  rw [outside, List.filter_eq_nil_iff]
  intro hit hhit
  simp [h hit hhit]

/-- One search with both readers finds what two searches find, but for single lines inside forms of
the first reader. -/
theorem allFrom_orElse_perm {f : Text → Option α} (empty : ∀ later, R [] later = none)
    (blank : f [] = none) (offset : Nat) (lines : List Text) :
    ((R.orElse (ofLine f)).allFrom offset lines).Perm (R.allFrom offset lines ++
      outside (R.allFrom offset lines) ((ofLine f).allFrom offset lines)) := by
  have blankLine : ∀ later, ofLine f [] later = none := fun _ => by rw [ofLine, blank]; rfl
  fun_induction R.allFrom offset lines with
  | case1 => simp [allFrom, outside]
  | case2 offset line later hR ih =>
    rw [allFrom, orElse, hR, Option.none_or, ofLine_allFrom_cons, outside_append]
    cases hf : f line with
    | none => simpa [ofLine, hf, outside] using ih
    | some a =>
      have before : outside (R.allFrom (offset + line.length + 1) later)
          [⟨offset, offset + line.length, a⟩] = [⟨offset, offset + line.length, a⟩] := by
        refine outside_of_before fun hit hhit span hspan => ?_
        have := (bounds_of_mem_allFrom empty hspan).1
        rw [List.mem_singleton.1 hhit]
        dsimp only
        omega
      simp only [ofLine, hf, Option.map_some, Option.toList_some, before, List.take_zero,
        List.drop_zero, List.singleton_append, Text.ofLines_cons, Text.afterLine_nil,
        List.append_nil]
      exact (ih.cons _).trans List.perm_middle.symm
  | case3 offset line later a more hR stop ih =>
    -- the single lines of the form that is read here, and those behind it
    have parts : (ofLine f).allFrom offset (line :: later) =
        (ofLine f).allFrom offset (line :: later.take more) ++
          (ofLine f).allFrom (stop + 1) (later.drop more) := by
      have cut := ofLine_allFrom_append (f := f) offset (line :: later.take more) (later.drop more)
      rwa [List.cons_append, List.take_append_drop, Text.afterLine_cons, List.length_cons,
        ← Nat.add_assoc] at cut
    have inside : outside (⟨offset, stop, a⟩ :: R.allFrom (stop + 1) (later.drop more))
        ((ofLine f).allFrom offset (line :: later.take more)) = [] := by
      refine outside_cons_of_inside _ fun hit hhit => ?_
      obtain ⟨le, lt, within⟩ := bounds_of_mem_allFrom blankLine hhit
      exact ⟨le, Nat.lt_of_lt_of_le lt within⟩
    have behind : outside (⟨offset, stop, a⟩ :: R.allFrom (stop + 1) (later.drop more))
        ((ofLine f).allFrom (stop + 1) (later.drop more)) =
        outside (R.allFrom (stop + 1) (later.drop more))
          ((ofLine f).allFrom (stop + 1) (later.drop more)) := by
      refine outside_cons_of_behind fun hit hhit => ?_
      exact Nat.le_of_succ_le (bounds_of_mem_allFrom blankLine hhit).1
    rw [parts, outside_append, inside, behind, List.nil_append, allFrom, orElse, hR,
      Option.some_or, List.cons_append]
    exact ih.cons _

end LineReader

namespace Recogniser.Reads

variable {α : Type} {r q : Recogniser α} {R Q : LineReader α}

/-- Two recognisers tried one after the other read what their readers do, tried likewise. -/
theorem orElse (hr : r.Reads R) (hq : q.Reads Q) :
    Recogniser.Reads (fun flag text => (r flag text).or (q flag text)) (R.orElse Q) where
  insideLine text := by rw [hr.insideLine, hq.insideLine, Option.none_or]
  emptyLine later := by rw [LineReader.orElse, hr.emptyLine, hq.emptyLine, Option.none_or]
  lineStart line later ls := by
    rw [hr.lineStart line later ls, hq.lineStart line later ls, LineReader.orElse]
    cases R line later <;> rfl

end Recogniser.Reads
end PageDirectives
