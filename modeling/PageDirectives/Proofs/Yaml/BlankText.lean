import PageDirectives.Yaml.Meaning
import PageDirectives.Text.Blank
/-!
A text of blanks holds no mapping. Whatever a reader passes over, the characters that follow are
those at the end of the text, so they stay blanks, and no blank opens a collection. The tokens are
plain scalars up to the end or to an error, and a document that begins with a scalar is a scalar.
-/
namespace PageDirectives.Yaml

namespace Cursor

theorem rest_step_suffix (c : Cursor) : c.step.rest <:+ c.rest := by
  obtain ⟨rest, index, line, column⟩ := c
  cases rest with
  | nil => exact List.suffix_refl _
  | cons x rest =>
    simp only [step]
    split
    · exact List.suffix_cons x rest
    · split <;> exact List.suffix_cons x rest

theorem rest_forward_suffix (count : Nat) (c : Cursor) : (c.forward count).rest <:+ c.rest := by
  induction count generalizing c with
  | zero => exact List.suffix_refl _
  | succ count ih => exact (ih c.step).trans c.rest_step_suffix

theorem rest_lineBreak?_suffix {c next : Cursor} {mark : Char}
    (h : c.lineBreak? = some (mark, next)) : next.rest <:+ c.rest := by
  simp only [lineBreak?, Option.map_eq_some_iff, Prod.exists, Prod.mk.injEq] at h
  obtain ⟨-, rest, -, -, rfl⟩ := h
  exact c.rest_forward_suffix _

end Cursor

namespace Plain

theorem rest_emptyLines_suffix (fuel : Nat) (c : Cursor) (found : Text) :
    (emptyLines fuel c found).2.rest <:+ c.rest := by
  induction fuel generalizing c found with
  | zero => exact List.suffix_refl _
  | succ fuel ih =>
    rw [emptyLines]
    split
    · exact (ih c.step found).trans c.rest_step_suffix
    · split
      · exact List.suffix_refl _
      · next mark next h =>
        have behind := Cursor.rest_lineBreak?_suffix h
        split
        · exact behind
        · exact (ih next _).trans behind

theorem rest_gap_suffix (c : Cursor) : (gap c).after.rest <:+ c.rest := by
  have spaces := c.rest_forward_suffix (c.rest.takeWhile (· == ' ')).length
  simp only [gap, Cursor.takeWhile]
  split
  · exact spaces
  · next mark next h =>
    have behind := (Cursor.rest_lineBreak?_suffix h).trans spaces
    split
    · exact behind
    · have empty := (rest_emptyLines_suffix (next.rest.length + 1) next []).trans behind
      split <;> simp_all

theorem rest_wordsFrom_suffix (bracketed : Bool) (indent : Int) (fuel : Nat) (c : Cursor)
    (text before : Text) (broken : Bool) :
    (wordsFrom bracketed indent fuel c text before broken).after.rest <:+ c.rest := by
  induction fuel generalizing c text before broken with
  | zero => exact List.suffix_refl _
  | succ fuel ih =>
    rw [wordsFrom]
    split
    · exact List.suffix_refl _
    · exact List.suffix_refl _
    · have behind := (rest_gap_suffix _).trans
        (c.rest_forward_suffix (word bracketed c.rest).length)
      simp only
      split
      · exact behind
      · exact (ih _ _ _ _).trans behind

end Plain

/-- The tokens that open no collection and say nothing about what follows them. -/
def Token.OpensNothing : Token → Prop
  | scalar .. | finish | broken _ => True
  | _ => False

/-- A reading between blanks: blanks follow, no collection is open, and none was opened. -/
structure Reading.Bare (r : Reading) : Prop where
  blank : ∀ c ∈ r.cursor.rest, Text.isBlank c = true
  outer : r.outer = []
  tokens : ∀ t ∈ r.tokens, t.OpensNothing

namespace Reading

theorem rest_toNextToken_suffix (fuel : Nat) (r : Reading) :
    (r.toNextToken fuel).cursor.rest <:+ r.cursor.rest ∧
      (r.toNextToken fuel).outer = r.outer ∧ (r.toNextToken fuel).tokens = r.tokens := by
  induction fuel generalizing r with
  | zero => exact ⟨List.suffix_refl _, rfl, rfl⟩
  | succ fuel ih =>
    have spaces : (r.cursor.dropWhile (· == ' ')).rest <:+ r.cursor.rest :=
      Cursor.rest_forward_suffix _ _
    have comment : ∀ c : Cursor, (if c.rest.head? = some '#' then c.dropWhile (!isBreak ·)
        else c).rest <:+ c.rest := by
      intro c
      split
      · exact Cursor.rest_forward_suffix _ _
      · exact List.suffix_refl _
    rw [toNextToken]
    split
    · exact ⟨(comment _).trans spaces, rfl, rfl⟩
    · next mark next h =>
      obtain ⟨behind, outer, tokens⟩ := ih
        { r with cursor := next, keyAllowed := r.keyAllowed || r.brackets == 0 }
      exact ⟨behind.trans ((Cursor.rest_lineBreak?_suffix h).trans ((comment _).trans spaces)),
        outer, tokens⟩

variable {r after : Reading}

theorem Bare.of_suffix (h : r.Bare) (rest : after.cursor.rest <:+ r.cursor.rest)
    (outer : after.outer = r.outer) (tokens : ∀ t ∈ after.tokens, t ∈ r.tokens ∨ t.OpensNothing) :
    after.Bare where
  blank c hc := h.blank c (rest.subset hc)
  outer := outer.trans h.outer
  tokens t ht := (tokens t ht).elim (h.tokens t) id

theorem Bare.dropKeyPlace (h : r.Bare) (read : r.dropKeyPlace = .ok after) :
    after.Bare ∧ after.cursor = r.cursor := by
  rw [Reading.dropKeyPlace] at read
  split at read
  · split at read
    · simp at read
    · obtain rfl := Except.ok.inj read
      exact ⟨⟨h.blank, h.outer, h.tokens⟩, rfl⟩
  · obtain rfl := Except.ok.inj read
    exact ⟨h, rfl⟩

theorem Bare.saveKeyPlace (h : r.Bare) (read : r.saveKeyPlace = .ok after) :
    after.Bare ∧ after.cursor = r.cursor := by
  rw [Reading.saveKeyPlace] at read
  split at read
  · cases dropped : r.dropKeyPlace with
    | error e => simp [dropped, bind, Except.bind] at read
    | ok middle =>
      obtain ⟨bare, same⟩ := h.dropKeyPlace dropped
      simp only [dropped, bind, Except.bind, Except.ok.injEq] at read
      subst read
      exact ⟨⟨bare.blank, bare.outer, bare.tokens⟩, same⟩
  · obtain rfl := Except.ok.inj read
    exact ⟨h, rfl⟩

theorem Bare.unwind (h : r.Bare) (column : Int) : r.unwind column = r := by
  rw [Reading.unwind]
  split
  · rw [h.outer, closeDeeper]
  · rfl

theorem Bare.readEnd (h : r.Bare) (read : r.readEnd = .ok after) : after.Bare := by
  rw [Reading.readEnd, closeAll, h.unwind] at read
  cases dropped : r.dropKeyPlace with
  | error e => simp [dropped, bind, Except.bind] at read
  | ok middle =>
    simp only [dropped, bind, Except.bind, Except.ok.injEq] at read
    subst read
    obtain ⟨bare, -⟩ := h.dropKeyPlace dropped
    exact ⟨bare.blank, bare.outer, List.forall_mem_cons.2 ⟨trivial, bare.tokens⟩⟩

theorem Bare.readPlain (h : r.Bare) (read : r.readPlain = .ok after) : after.Bare := by
  rw [Reading.readPlain] at read
  cases saved : r.saveKeyPlace with
  | error e => simp [saved, bind, Except.bind] at read
  | ok middle =>
    simp only [saved, bind, Except.bind, Except.ok.injEq] at read
    subst read
    obtain ⟨bare, -⟩ := h.saveKeyPlace saved
    exact bare.of_suffix (Plain.rest_wordsFrom_suffix ..) rfl
      (List.forall_mem_cons.2 ⟨.inr trivial, fun t ht => .inl ht⟩)

/-- No blank is a mark, so where blanks follow a reader finds a plain scalar or the end. -/
theorem Bare.readToken (h : r.Bare) (read : r.readToken = .ok after) : after.Bare := by
  rw [Reading.readToken] at read
  cases follows : r.cursor.rest with
  | nil =>
    rw [follows] at read
    exact h.readEnd read
  | cons c rest =>
    have blank : Text.isBlank c = true := h.blank c (by rw [follows]; exact List.mem_cons_self)
    have noMark : ∀ mark : Char, Text.isBlank mark = false → (c == mark) = false := by
      intro mark plain
      rw [beq_eq_false_iff_ne]
      rintro rfl
      rw [plain] at blank
      simp at blank
    have noSeparator : isSeparator (c :: rest) = false := by
      have dash : c ≠ '-' := beq_eq_false_iff_ne.1 (noMark '-' (by decide))
      have dot : c ≠ '.' := beq_eq_false_iff_ne.1 (noMark '.' (by decide))
      simp [isSeparator, dash, dot]
    rw [follows] at read
    simp only [noSeparator, noMark '%' (by decide), noMark '[' (by decide),
      noMark '\x7b' (by decide), noMark ']' (by decide), noMark '\x7d' (by decide),
      noMark ',' (by decide), noMark '-' (by decide), noMark '?' (by decide),
      noMark ':' (by decide), noMark '*' (by decide), noMark '&' (by decide),
      noMark '!' (by decide), noMark '|' (by decide), noMark '>' (by decide),
      noMark '\'' (by decide), noMark '"' (by decide), Bool.and_false, Bool.false_and,
      Bool.false_eq_true, if_false] at read
    split at read
    · exact h.readPlain read
    · simp at read

theorem Bare.dropStaleKeyPlaces (h : r.Bare) (read : r.dropStaleKeyPlaces = .ok after) :
    after.Bare := by
  rw [Reading.dropStaleKeyPlaces] at read
  dsimp only at read
  split at read
  · simp at read
  · obtain rfl := Except.ok.inj read
    exact ⟨h.blank, h.outer, h.tokens⟩

theorem Bare.next (h : r.Bare) (read : r.next = .ok after) : after.Bare := by
  rw [Reading.next] at read
  obtain ⟨rest, outer, tokens⟩ := r.rest_toNextToken_suffix (r.cursor.rest.length + 1)
  have between : (r.toNextToken (r.cursor.rest.length + 1)).Bare :=
    h.of_suffix rest outer fun t ht => .inl (tokens ▸ ht)
  cases alive : (r.toNextToken (r.cursor.rest.length + 1)).dropStaleKeyPlaces with
  | error e => simp [alive, bind, Except.bind] at read
  | ok middle =>
    have bare := between.dropStaleKeyPlaces alive
    simp only [alive, bind, Except.bind, bare.unwind] at read
    exact bare.readToken read

/-- From blanks on no token opens a collection. -/
theorem Bare.run (h : r.Bare) (fuel : Nat) : ∀ t ∈ run fuel r, t.OpensNothing := by
  induction fuel generalizing r with
  | zero =>
    simp only [Reading.run, List.mem_reverse]
    exact List.forall_mem_cons.2 ⟨trivial, h.tokens⟩
  | succ fuel ih =>
    rw [Reading.run]
    split
    · simp only [List.mem_reverse]
      exact List.forall_mem_cons.2 ⟨trivial, h.tokens⟩
    · next later read =>
      have bare := h.next read
      split
      · simpa only [List.mem_reverse] using bare.tokens
      · exact ih bare

end Reading

theorem opensNothing_tokens {text : Text} (blank : Text.isAllBlank text = true) :
    ∀ t ∈ tokens text, t.OpensNothing := by
  rw [tokens]
  split
  · have all : ∀ c ∈ text, Text.isBlank c = true := List.all_eq_true.1 blank
    refine Reading.Bare.run ⟨fun c hc => all c ?_, rfl, by simp⟩ _
    dsimp only at hc
    split at hc
    · exact (Cursor.rest_step_suffix _).subset hc
    · exact hc
  · exact List.forall_mem_singleton.2 trivial

/-- A document that begins with a scalar is that scalar, whatever follows it. -/
theorem whole_scalar (fuel : Nat) (content : Text) (plain : Bool) (later : List Token)
    {handles : List (Text × Text)} {root : Node}
    (read : (Builder.whole (fuel + 2)).run' ⟨.scalar content plain :: later, handles, []⟩ =
      .ok (some root)) : ∃ kind, root = .scalar kind content := by
  let kind := Builder.Properties.scalarKind ⟨none, none⟩ content plain
  have whole : (Builder.whole (fuel + 2)).run' ⟨.scalar content plain :: later, handles, []⟩ =
      (((Builder.finished (fuel + 2)).run ⟨later, handles, []⟩).bind fun last =>
        .ok (some (Node.scalar kind content), last.2)).map Prod.fst := rfl
  rw [whole] at read
  cases ends : (Builder.finished (fuel + 2)).run ⟨later, handles, []⟩ with
  | error e => simp [ends, Except.bind, Except.map] at read
  | ok last =>
    rw [ends] at read
    exact ⟨kind, (Option.some.inj (Except.ok.inj read)).symm⟩

theorem isScalar_of_opensNothing {text : Text} (quiet : ∀ t ∈ tokens text, t.OpensNothing)
    {root : Node} (read : Node.ofText? text = .ok (some root)) :
    ∃ kind content, root = .scalar kind content := by
  simp only [Node.ofText?] at read
  generalize tokens text = ts at quiet read
  cases ts with
  | nil => exact absurd (Except.ok.inj read) (by simp)
  | cons t later =>
    cases t with
    | broken e => cases read
    | finish => exact absurd (Except.ok.inj read) (by simp)
    | scalar content plain =>
      obtain ⟨kind, same⟩ := whole_scalar (4 * later.length + 10) content plain later read
      exact ⟨kind, content, same⟩
    | _ => exact absurd (quiet _ List.mem_cons_self) id

theorem value_scalar_ne_map (kind : Kind) (text : Text) (entries : Entries) :
    Scalar.value kind text ≠ .ok (.map entries) := by
  have mapped {ε α : Type} (x : Except ε α) (f : α → Value) (no : ∀ a, f a ≠ .map entries) :
      x.map f ≠ .ok (.map entries) := by
    cases x with
    | error e => simp [Except.map]
    | ok a => simpa [Except.map] using no a
  cases kind with
  | timestamp =>
    rw [Scalar.value, Scalar.timestamp]
    split
    · simp
    · split <;> simp
  | truth => exact mapped _ _ (by simp)
  | integer => exact mapped _ _ (by simp)
  | float => exact mapped _ _ (by simp)
  | binary => exact mapped _ _ (by simp)
  | _ => simp [Scalar.value]

/-- A text of blanks is not a mapping, be it empty. -/
theorem read_ne_map {text : Text} (blank : Text.isAllBlank text = true) (entries : Entries) :
    read text ≠ .ok (.map entries) := by
  intro isMap
  rw [read] at isMap
  cases built : Node.ofText? text with
  | error e => simp [built, bind, Except.bind] at isMap
  | ok document =>
    rw [built] at isMap
    cases document with
    | none => exact absurd (Except.ok.inj isMap) (by simp)
    | some root =>
      obtain ⟨kind, content, rfl⟩ := isScalar_of_opensNothing (opensNothing_tokens blank) built
      simp only [bind, Except.bind, Node.value] at isMap
      split at isMap
      · cases isMap
      · cases value : Scalar.value kind content with
        | error e =>
          rw [value] at isMap
          cases isMap
        | ok v =>
          rw [value] at isMap
          have same : v = .map entries := Except.ok.inj isMap
          exact value_scalar_ne_map kind content entries (same ▸ value)

end PageDirectives.Yaml
