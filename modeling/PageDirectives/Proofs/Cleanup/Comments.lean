import PageDirectives.Cleanup.Marks
import PageDirectives.Proofs.Text.Cuts
import PageDirectives.Proofs.Text.Search
/-!
Comments between percent marks. A text without its comments is made of every second piece between
its marks, where a last mark without a partner stays with what follows it. No piece that a mark ends
has a percent sign at its end, so no mark comes about where two pieces meet: what is left holds no
comment, and taking comments off a second time changes nothing.
-/
namespace PageDirectives.Cleanup

/-- The mark on both sides of a comment. -/
def percents : Text := ['%', '%']

/-- A mark in a text has another one behind it. -/
def HasComment (text : Text) : Prop :=
  ∃ front body back, text = front ++ (percents ++ (body ++ (percents ++ back)))

/-- Every second entry of a list, from the first on. -/
def evens {α : Type} : List α → List α
  | [] => []
  | [x] => [x]
  | x :: _ :: later => x :: evens later

/-- The last mark between pieces and the piece behind it, if the mark has no partner. -/
def unpaired (pieces : List Text) : Text :=
  if pieces.length % 2 = 0 then percents ++ pieces.getLastD [] else []

variable {text before rest body back : Text}

theorem percents_ne_nil : percents ≠ [] := List.cons_ne_nil _ _

theorem HasComment.of_suffix (comment : HasComment back) (suffix : back <:+ text) :
    HasComment text := by
  obtain ⟨before, rfl⟩ := suffix
  obtain ⟨front, body, back, rfl⟩ := comment
  exact ⟨before ++ front, body, back, (List.append_assoc ..).symm⟩

theorem comment_unanchored : comment.Unanchored := fun _ _ => rfl

theorem comment_of_unmarked (unmarked : ¬ percents <+: text) (flag : Bool) :
    comment flag text = none := by
  have unread : Text.after? ['%', '%'] text = none := Text.after?_eq_none_iff.2 unmarked
  rw [comment, unread]
  rfl

theorem comment_percents (rest : Text) (flag : Bool) :
    comment flag (percents ++ rest) =
      (Text.cut? percents rest).map fun (body, _) => ((), body.length + 4) := by
  have read : Text.after? ['%', '%'] (percents ++ rest) = some rest := Text.after?_append _ rest
  rw [comment, read]
  cases cut : Text.cut? percents rest <;> simp_all [percents]

theorem comment_of_not_hasComment (clean : ¬ HasComment text) (flag : Bool) :
    comment flag text = none := by
  by_cases marked : percents <+: text
  · obtain ⟨rest, rfl⟩ := marked
    rw [comment_percents]
    cases cut : Text.cut? percents rest with
    | none => rfl
    | some parts =>
      refine absurd ⟨[], parts.1, parts.2, ?_⟩ clean
      rw [Text.cut?_eq_some cut, List.append_assoc]
      rfl
  · exact comment_of_unmarked marked flag

theorem stripComments_of_not_hasComment (clean : ¬ HasComment text) :
    stripComments text = text :=
  Search.exchange_of_none comment_unanchored _ fun _ _ suffix =>
    comment_of_not_hasComment (fun comment => clean (comment.of_suffix suffix)) true

/-- What stands in front of the first comment is kept, and the rest goes on behind the comment. -/
theorem stripComments_of_cut? (opens : Text.cut? percents text = some (before, rest))
    (closes : Text.cut? percents rest = some (body, back)) :
    stripComments text = before ++ stripComments back := by
  have unread : ∀ tail, tail ≠ [] → tail <:+ before →
      comment true (tail ++ (percents ++ rest)) = none := fun tail filled suffix =>
    comment_of_unmarked (Text.not_prefix_of_cut? percents_ne_nil opens filled suffix) true
  have piece : percents ++ rest = (percents ++ (body ++ percents)) ++ back := by
    rw [Text.cut?_eq_some closes]
    simp
  have read : comment true ((percents ++ (body ++ percents)) ++ back) =
      some ((), (percents ++ (body ++ percents)).length) := by
    rw [← piece, comment_percents, closes]
    simp [percents]
  rw [stripComments, Text.cut?_eq_some opens, List.append_assoc,
    (Search.append_of_none comment_unanchored _ unread).2, piece,
    (Search.append_of_some comment_unanchored _ (by simp [percents]) read).2]
  rfl

theorem hasComment_of_cut? (opens : Text.cut? percents text = some (before, rest))
    (closes : Text.cut? percents rest = some (body, back)) : HasComment text := by
  refine ⟨before, body, back, ?_⟩
  rw [Text.cut?_eq_some opens, Text.cut?_eq_some closes]
  simp

/-- The first two marks of a text with a comment. -/
theorem HasComment.exists_cut? (comment : HasComment text) :
    ∃ before rest body back, Text.cut? percents text = some (before, rest) ∧
      Text.cut? percents rest = some (body, back) := by
  obtain ⟨front, body, back, rfl⟩ := comment
  obtain ⟨before, rest, opens, behind⟩ :=
    Text.exists_cut?_append percents_ne_nil front (body ++ (percents ++ back))
  have marked : percents <:+: rest :=
    List.IsInfix.trans ⟨body, back, List.append_assoc ..⟩ behind.isInfix
  cases closes : Text.cut? percents rest with
  | none => exact absurd marked (Text.cut?_eq_none_iff.1 closes)
  | some parts => exact ⟨before, rest, parts.1, parts.2, opens, closes⟩

/-- What holds of texts without comments, and of a text if it holds of what follows the first
comment, holds of all texts. -/
@[elab_as_elim]
theorem commentInduction {motive : Text → Prop}
    (clean : ∀ text, ¬ HasComment text → motive text)
    (behind : ∀ text before rest body back, Text.cut? percents text = some (before, rest) →
      Text.cut? percents rest = some (body, back) → motive back → motive text)
    (text : Text) : motive text := by
  induction size : text.length using Nat.strongRecOn generalizing text with
  | ind n ih =>
    subst size
    by_cases comment : HasComment text
    · obtain ⟨before, rest, body, back, opens, closes⟩ := comment.exists_cut?
      refine behind text before rest body back opens closes (ih back.length ?_ back rfl)
      rw [Text.cut?_eq_some opens, Text.cut?_eq_some closes]
      simp only [List.length_append, percents, List.length_cons]
      omega
    · exact clean text comment

/-- No comment begins in a text that ends in front of a mark. -/
theorem HasComment.of_append (apart : ¬ percents <:+: before ++ percents.dropLast)
    (comment : HasComment (before ++ back)) : HasComment back := by
  obtain ⟨front, body, later, same⟩ := comment
  rcases List.append_eq_append_iff.1 same with ⟨between, -, cut⟩ | ⟨between, cut, marked⟩
  · exact ⟨between, body, later, cut⟩
  subst cut
  cases between with
  | nil => exact ⟨[], body, later, marked.symm⟩
  | cons c between =>
    -- the first of two percent signs would end the text in front, or both would stand in it
    refine absurd ?_ apart
    obtain ⟨rfl, second⟩ := List.cons.inj marked
    cases between with
    | nil => exact ⟨front, [], by simp [percents]⟩
    | cons d between =>
      obtain ⟨rfl, -⟩ := List.cons.inj second
      exact ⟨front, between ++ percents.dropLast, by simp [percents]⟩

theorem not_hasComment_stripComments (text : Text) : ¬ HasComment (stripComments text) := by
  induction text using commentInduction with
  | clean text clean => rwa [stripComments_of_not_hasComment clean]
  | behind text before rest body back opens closes ih =>
    rw [stripComments_of_cut? opens closes]
    exact fun comment =>
      ih (comment.of_append (Text.not_infix_append_of_cut? percents_ne_nil opens))

theorem unpaired_cons_cons (p q : Text) {pieces : List Text} (ne : pieces ≠ []) :
    unpaired (p :: q :: pieces) = unpaired pieces := by
  obtain ⟨r, more, rfl⟩ := List.exists_cons_of_ne_nil ne
  simp only [unpaired, List.length_cons, List.getLastD_cons]
  congr 1
  simp only [eq_iff_iff]
  omega

theorem stripComments_eq (text : Text) :
    stripComments text = (evens (Text.splitAll percents text)).flatten ++
      unpaired (Text.splitAll percents text) := by
  induction text using commentInduction with
  | clean text clean =>
    rw [stripComments_of_not_hasComment clean]
    cases opens : Text.cut? percents text with
    | none => simp [Text.splitAll_of_none opens, evens, unpaired]
    | some parts =>
      obtain ⟨before, rest⟩ := parts
      have alone : Text.cut? percents rest = none := by
        cases closes : Text.cut? percents rest with
        | none => rfl
        | some parts => exact absurd (hasComment_of_cut? opens closes) clean
      rw [Text.splitAll_of_some percents_ne_nil opens, Text.splitAll_of_none alone,
        Text.cut?_eq_some opens]
      simp [evens, unpaired]
  | behind text before rest body back opens closes ih =>
    have others := Text.splitAll_ne_nil percents back
    rw [stripComments_of_cut? opens closes, Text.splitAll_of_some percents_ne_nil opens,
      Text.splitAll_of_some percents_ne_nil closes, unpaired_cons_cons before body others, ih]
    simp [evens]

/-- A text without its comments is made of every second piece between its marks and a last mark
without a partner, with what follows it. It holds no comment, so it stays as it is when comments are
taken off once more. -/
theorem stripComments_eq_evens (text : Text) :
    let pieces := Text.splitAll percents text
    stripComments text = (evens pieces).flatten ++ unpaired pieces ∧
      ¬ HasComment (stripComments text) ∧
        stripComments (stripComments text) = stripComments text :=
  ⟨stripComments_eq text, not_hasComment_stripComments text,
    stripComments_of_not_hasComment (not_hasComment_stripComments text)⟩

end PageDirectives.Cleanup
