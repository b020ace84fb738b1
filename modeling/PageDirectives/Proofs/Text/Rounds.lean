import PageDirectives.Text.Search
/-!
Searching in rounds. A round looks for the next form at or behind a position. If the form is
accepted the next round begins where it stops, and otherwise one character behind its start, since
another form may begin inside of what was passed over. Every round moves the position forward, so
the rounds come to an end, and they find what one search for accepted forms finds.
-/
namespace PageDirectives

variable {α : Type}

/-- Reads those forms of a recogniser that are accepted. -/
def Recogniser.accepting (r : Recogniser α) (accepts : α → Bool) : Recogniser α :=
  fun flag text => (r flag text).filter fun read => accepts read.1

namespace Search

/-- Whether a line begins at a position of a text. -/
def startsLine (text : Text) (position : Nat) : Bool :=
  position == 0 || lineStartAfter (text.take position)

/-- All forms at or behind a position. -/
def allAt (r : Recogniser α) (text : Text) (position : Nat) : List (Located α) :=
  allFrom r position (startsLine text position) (text.drop position)

/-- The first form at or behind a position. -/
def firstAt (r : Recogniser α) (text : Text) (position : Nat) : Option (Located α) :=
  firstFrom r position (startsLine text position) (text.drop position)

/-- The accepted forms that a number of rounds finds from a position on, if it is enough for the
search to end. -/
def rounds (r : Recogniser α) (accepts : α → Bool) (text : Text) :
    Nat → Nat → Option (List (Located α))
  | 0, _ => none
  | more + 1, position =>
    match firstAt r text position with
    | none => some []
    | some hit =>
      if accepts hit.found then (rounds r accepts text more hit.stop).map (hit :: ·)
      else rounds r accepts text more (hit.start + 1)

variable {r : Recogniser α} {accepts : α → Bool} {text : Text} {position : Nat}

theorem lineStartAfter_append {taken : Text} (ne : taken ≠ []) (front : Text) :
    lineStartAfter (front ++ taken) = lineStartAfter taken := by
  obtain ⟨init, last, rfl⟩ := List.eq_nil_or_concat taken |>.resolve_left ne
  simp [lineStartAfter, ← List.append_assoc]

/-- Behind a piece taken at a position a line begins if the piece ends with a line feed. -/
theorem startsLine_add {c : Char} {rest : Text} (here : text.drop position = c :: rest)
    (size : Nat) :
    startsLine text (position + 1 + size) = lineStartAfter (c :: rest.take size) := by
  have front : text.take (position + 1 + size) = text.take position ++ (c :: rest.take size) := by
    rw [Nat.add_assoc, List.take_add, here, Nat.add_comm 1 size, List.take_succ_cons]
  have behind : (position + 1 + size == 0) = false := by simp
  rw [startsLine, front, lineStartAfter_append (List.cons_ne_nil _ _), behind, Bool.false_or]

theorem drop_add {c : Char} {rest : Text} (here : text.drop position = c :: rest) (size : Nat) :
    text.drop (position + 1 + size) = rest.drop size := by
  rw [Nat.add_assoc, ← List.drop_drop, here, Nat.add_comm 1 size, List.drop_succ_cons]

section Position

variable {c : Char} {rest : Text} (here : text.drop position = c :: rest)
include here

theorem allAt_of_none (h : r (startsLine text position) (c :: rest) = none) :
    allAt r text position = allAt r text (position + 1) := by
  have flag := startsLine_add here 0
  have drop := drop_add here 0
  rw [Nat.add_zero] at flag drop
  rw [allAt, here, allFrom, h, allAt, flag, drop]
  rfl

theorem allAt_of_some {found : α} {size : Nat}
    (h : r (startsLine text position) (c :: rest) = some (found, size)) :
    allAt r text position = ⟨position, position + 1 + (size - 1), found⟩ ::
      allAt r text (position + 1 + (size - 1)) := by
  rw [allAt, here, allFrom, h, allAt, startsLine_add here, drop_add here]

theorem firstAt_of_none (h : r (startsLine text position) (c :: rest) = none) :
    firstAt r text position = firstAt r text (position + 1) := by
  have flag := startsLine_add here 0
  have drop := drop_add here 0
  rw [Nat.add_zero] at flag drop
  rw [firstAt, here, firstFrom, h, firstAt, flag, drop]
  rfl

theorem firstAt_of_some {found : α} {size : Nat}
    (h : r (startsLine text position) (c :: rest) = some (found, size)) :
    firstAt r text position = some ⟨position, position + 1 + (size - 1), found⟩ := by
  rw [firstAt, here, firstFrom, h]

end Position

/-- One round: the first form of any kind decides where the accepted forms go on. -/
theorem allAt_accepting (r : Recogniser α) (accepts : α → Bool) (text : Text) (position : Nat) :
    match firstAt r text position with
    | none => allAt (r.accepting accepts) text position = []
    | some hit => position ≤ hit.start ∧ hit.start < text.length ∧ hit.start < hit.stop ∧
        allAt (r.accepting accepts) text position =
          if accepts hit.found then hit :: allAt (r.accepting accepts) text hit.stop
          else allAt (r.accepting accepts) text (hit.start + 1) := by
  -- the induction is on what is left of the text behind the position
  induction left : text.length - position generalizing position with
  | zero =>
    have here : text.drop position = [] := List.drop_eq_nil_of_le (by omega)
    simp [firstAt, allAt, here, firstFrom, allFrom]
  | succ n ih =>
    have lt : position < text.length := by omega
    have here := List.drop_eq_getElem_cons lt
    cases read : r (startsLine text position) (text[position] :: text.drop (position + 1)) with
    | none =>
      have skipped : r.accepting accepts (startsLine text position)
          (text[position] :: text.drop (position + 1)) = none := by
        rw [Recogniser.accepting, read, Option.filter_none]
      have later := ih (position + 1) (by omega)
      rw [firstAt_of_none here read, allAt_of_none here skipped]
      cases first : firstAt r text (position + 1) with
      | none => simpa only [first] using later
      | some hit =>
        simp only [first] at later ⊢
        exact ⟨by omega, later.2⟩
    | some found =>
      obtain ⟨found, size⟩ := found
      rw [firstAt_of_some here read]
      refine ⟨Nat.le_refl _, lt, by dsimp only; omega, ?_⟩
      cases ok : accepts found with
      | true =>
        have taken : r.accepting accepts (startsLine text position)
            (text[position] :: text.drop (position + 1)) = some (found, size) := by
          rw [Recogniser.accepting, read, Option.filter_some, if_pos ok]
        rw [allAt_of_some here taken, if_pos rfl]
      | false =>
        have skipped : r.accepting accepts (startsLine text position)
            (text[position] :: text.drop (position + 1)) = none := by
          rw [Recogniser.accepting, read, Option.filter_some, if_neg (by simp [ok])]
        rw [allAt_of_none here skipped, if_neg Bool.false_ne_true]

theorem rounds_eq (r : Recogniser α) (accepts : α → Bool) {text : Text} {more position : Nat}
    (enough : text.length - position < more) :
    rounds r accepts text more position = some (allAt (r.accepting accepts) text position) := by
  induction more generalizing position with
  | zero => omega
  | succ more ih =>
    have round := allAt_accepting r accepts text position
    rw [rounds]
    cases first : firstAt r text position with
    | none =>
      rw [first] at round
      rw [round]
    | some hit =>
      simp only [first] at round ⊢
      obtain ⟨le, lt, width, next⟩ := round
      rw [next]
      split
      · rw [ih (by omega), Option.map_some]
      · rw [ih (by omega)]

/-- As many rounds as a text has characters, and one more, find all accepted forms. -/
theorem rounds_length (r : Recogniser α) (accepts : α → Bool) (text : Text) :
    rounds r accepts text (text.length + 1) 0 = some (all (r.accepting accepts) text) := by
  rw [rounds_eq r accepts (by omega)]
  rfl

end Search
end PageDirectives
