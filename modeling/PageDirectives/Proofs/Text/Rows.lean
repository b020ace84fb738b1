import PageDirectives.Proofs.Text.Lines
/-!
Lines as they stand in a text, each with the line feed that ends it. Only the last one may lack it,
and none is empty, so taking away rows takes away whole lines and leaves every other character.
-/
namespace PageDirectives.Text

/-- The lines of a text, each with the line feed that ends it. -/
def rows : Text → List Text
  | [] => []
  | c :: text =>
    if c = '\n' then ['\n'] :: rows text
    else
      match rows text with
      | [] => [[c]]
      | row :: others => (c :: row) :: others

theorem rows_append_feed {line : Text} (free : '\n' ∉ line) (rest : Text) :
    rows (line ++ '\n' :: rest) = (line ++ ['\n']) :: rows rest := by
  induction line with
  | nil => simp [rows]
  | cons c line ih =>
    rw [List.mem_cons, not_or] at free
    rw [List.cons_append, rows, if_neg (Ne.symm free.1), ih free.2]
    rfl

theorem rows_of_notMem {line : Text} (ne : line ≠ []) (free : '\n' ∉ line) :
    rows line = [line] := by
  induction line with
  | nil => exact absurd rfl ne
  | cons c line ih =>
    rw [List.mem_cons, not_or] at free
    rw [rows, if_neg (Ne.symm free.1)]
    cases line with
    | nil => rfl
    | cons d line => rw [ih (List.cons_ne_nil d line) free.2]

theorem drop_row (line rest : Text) (n : Nat) :
    (line ++ '\n' :: rest).drop (line.length + 1 + n) = rest.drop n := by
  rw [Nat.add_assoc, List.drop_length_add_append, Nat.add_comm, List.drop_succ_cons]

theorem take_row (line rest : Text) (n : Nat) :
    (line ++ '\n' :: rest).take (line.length + 1 + n) = (line ++ ['\n']) ++ rest.take n := by
  rw [Nat.add_assoc, List.take_length_add_append, Nat.add_comm, List.take_succ_cons,
    List.append_assoc, List.singleton_append]

/-- What holds of the empty text and of a last line without a line feed, and of a text if it holds of
what follows its first line, holds of all texts. -/
@[elab_as_elim]
theorem rowInduction {motive : Text → Prop} (nil : motive [])
    (last : ∀ line, line ≠ [] → '\n' ∉ line → motive line)
    (row : ∀ line rest, '\n' ∉ line →
      (∀ later, later.length ≤ rest.length → motive later) → motive (line ++ '\n' :: rest))
    (text : Text) : motive text := by
  induction size : text.length using Nat.strongRecOn generalizing text with
  | ind n ih =>
    subst size
    obtain ⟨line, later, ls, whole, -⟩ := exists_lines text
    obtain ⟨free, -⟩ := areLines_cons.1 ls
    subst whole
    by_cases alone : later = []
    · subst alone
      rw [ofLines_cons, afterLine_nil, List.append_nil]
      by_cases ne : line = []
      · exact ne ▸ nil
      · exact last line ne free
    · have size := length_ofLines_cons line alone
      rw [ofLines_cons_of_ne_nil line alone]
      exact row line _ free fun text le => ih text.length (by omega) text rfl

theorem flatten_rows (text : Text) : (rows text).flatten = text := by
  induction text using rowInduction with
  | nil => rfl
  | last line ne free => rw [rows_of_notMem ne free, List.flatten_singleton]
  | row line rest free ih =>
    rw [rows_append_feed free, List.flatten_cons, ih rest (Nat.le_refl _), List.append_assoc,
      List.singleton_append]

/-- Above the last row every row has its line feed. -/
theorem getLast?_of_mem_dropLast_rows {text row : Text} (h : row ∈ (rows text).dropLast) :
    row.getLast? = some '\n' := by
  induction text using rowInduction with
  | nil => simp [rows] at h
  | last line ne free => simp [rows_of_notMem ne free] at h
  | row line rest free ih =>
    rw [rows_append_feed free] at h
    cases others : rows rest with
    | nil => simp [others] at h
    | cons next later =>
      rw [others, List.dropLast_cons_cons, ← others] at h
      rcases List.mem_cons.1 h with rfl | h
      · exact List.getLast?_concat
      · exact ih rest (Nat.le_refl _) h

end PageDirectives.Text
