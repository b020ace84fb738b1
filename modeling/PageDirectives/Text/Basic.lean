/-!
Texts as lists of characters, their lines, and cuts at a mark. Lines are the pieces between line
feeds, so a text has always at least one line and joining its lines gives it back.
-/
namespace PageDirectives

/-- A text is the sequence of its characters. -/
abbrev Text := List Char

instance : Coe String Text := ⟨String.toList⟩

namespace Text

/-- The pieces of a list between occurrences of one separator; never the empty list. -/
def splitOn {α : Type} [DecidableEq α] (separator : α) : List α → List (List α)
  | [] => [[]]
  | x :: xs =>
    if x = separator then [] :: splitOn separator xs
    else
      match splitOn separator xs with
      | [] => [[x]]
      | piece :: pieces => (x :: piece) :: pieces

theorem splitOn_ne_nil {α : Type} [DecidableEq α] (separator : α) (xs : List α) :
    splitOn separator xs ≠ [] := by
  cases xs with
  | nil => simp [splitOn]
  | cons x xs =>
    simp only [splitOn]
    split
    · simp
    · split <;> simp

/-- The lines of a text, without their line feeds. -/
def lines (text : Text) : List Text := splitOn '\n' text

/-- A text with line ends of all kinds as line feeds. -/
def unifyLineEnds : Text → Text
  | [] => []
  | '\r' :: '\n' :: text => '\n' :: unifyLineEnds text
  | '\r' :: text => '\n' :: unifyLineEnds text
  | c :: text => c :: unifyLineEnds text

/-- Texts with one separator between each two. -/
def join (separator : Text) (pieces : List Text) : Text := separator.intercalate pieces

/-- Lines joined again by line feeds. -/
def ofLines (pieces : List Text) : Text := join ['\n'] pieces

/-- What follows a mark at the front of a text. -/
def after? : (mark text : Text) → Option Text
  | [], text => some text
  | _ :: _, [] => none
  | m :: mark, c :: text => if m = c then after? mark text else none

theorem after?_eq_some {mark text rest : Text} (h : after? mark text = some rest) :
    text = mark ++ rest := by
  induction mark generalizing text with
  | nil => simpa [after?] using h
  | cons m mark ih =>
    cases text with
    | nil => simp [after?] at h
    | cons c text =>
      simp only [after?] at h
      split at h
      · next heq => simp [heq, ih h]
      · simp at h

theorem after?_append (mark rest : Text) : after? mark (mark ++ rest) = some rest := by
  induction mark with
  | nil => rfl
  | cons m mark ih => simp [after?, ih]

/-- Whether a text starts with a mark. -/
def startsWith (text mark : Text) : Bool := (after? mark text).isSome

/-- The text before the first occurrence of a mark, and the text after it. -/
def cut? (mark : Text) : Text → Option (Text × Text)
  | [] => if mark = [] then some ([], []) else none
  | c :: text =>
    match after? mark (c :: text) with
    | some rest => some ([], rest)
    | none => (cut? mark text).map fun (before, rest) => (c :: before, rest)

theorem cut?_eq_some {mark text before rest : Text} (h : cut? mark text = some (before, rest)) :
    text = before ++ mark ++ rest := by
  induction text generalizing before with
  | nil =>
    simp only [cut?] at h
    split at h
    · next hm => simp_all
    · simp at h
  | cons c text ih =>
    simp only [cut?] at h
    split at h
    · next found =>
      obtain ⟨rfl, rfl⟩ : [] = before ∧ _ = rest := by simpa using h
      simpa using after?_eq_some found
    · obtain ⟨pair, cutText, same⟩ := Option.map_eq_some_iff.1 h
      obtain ⟨rfl, rfl⟩ : c :: pair.1 = before ∧ pair.2 = rest := by simpa using same
      simp [ih cutText]

/-- Whether a mark occurs in a text. -/
def contains (text mark : Text) : Bool := (cut? mark text).isSome

/-- The pieces of a text between the leftmost occurrences of a mark; an empty mark cuts nowhere. -/
def splitAll (mark text : Text) : List Text :=
  if _hm : mark = [] then [text]
  else
    match _cut : cut? mark text with
    | none => [text]
    | some (before, rest) => before :: splitAll mark rest
termination_by text.length
decreasing_by
  have := cut?_eq_some _cut
  have : 0 < mark.length := List.length_pos_iff.2 _hm
  simp_all
  omega

/-- Every occurrence of a mark, from the left, exchanged for another text. -/
def exchange (mark other text : Text) : Text := join other (splitAll mark text)

/-- The first of two texts that is given and not empty. -/
def orElse (text : Option Text) (otherwise : Text) : Text :=
  match text with
  | some (c :: rest) => c :: rest
  | _ => otherwise

end Text
end PageDirectives
