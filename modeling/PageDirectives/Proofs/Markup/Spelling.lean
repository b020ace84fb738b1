import PageDirectives.Layout.Monokai
import PageDirectives.Proofs.Markup.Readings
/-!
What the tokens of a source spell, and what a listing of them shows. Every character of the source
as the lexer sees it comes back, except that the spaces behind a terminator alone on its line have
no token. A listing shows exactly what the tokens spell.
-/
namespace PageDirectives

namespace Listing

/-- What the pieces of a line show. -/
def shownLine (line : List Piece) : Text := line.flatMap (·.text)

theorem shownLine_consPiece (piece : Piece) (line : List Piece) :
    shownLine (consPiece piece line) = piece.text ++ shownLine line := by
  unfold consPiece
  split
  · next empty => rw [empty, List.nil_append]
  · cases line with
    | nil => rfl
    | cons next rest => by_cases alike : next.look = piece.look <;> simp [alike, shownLine]

theorem consLines_cons_cons (look : Option Text) (text next : Text) (texts : List Text)
    (lines : List (List Piece)) : consLines look (text :: next :: texts) lines =
      consPiece ⟨look, text⟩ [] :: consLines look (next :: texts) lines := by
  cases lines <;> rfl

theorem consLines_ne_nil (look : Option Text) {texts : List Text} (ne : texts ≠ [])
    (lines : List (List Piece)) : consLines look texts lines ≠ [] := by
  obtain ⟨text, rest, rfl⟩ := List.exists_cons_of_ne_nil ne
  cases rest with
  | nil => cases lines <;> exact List.cons_ne_nil _ _
  | cons next rest =>
    rw [consLines_cons_cons]
    exact List.cons_ne_nil _ _

theorem lines_ne_nil (tokens : List Token) : lines tokens ≠ [] := by
  cases tokens with
  | nil => exact List.cons_ne_nil _ _
  | cons token tokens => exact consLines_ne_nil _ (Text.lines_ne_nil _) _

theorem shown_consLines (look : Option Text) {texts : List Text} (ne : texts ≠ [])
    {lines : List (List Piece)} (more : lines ≠ []) :
    Text.ofLines ((consLines look texts lines).map shownLine) =
      Text.ofLines texts ++ Text.ofLines (lines.map shownLine) := by
  obtain ⟨line, rest, rfl⟩ := List.exists_cons_of_ne_nil more
  induction texts with
  | nil => exact absurd rfl ne
  | cons text texts ih =>
    cases texts with
    | nil =>
      rw [consLines, List.map_cons, List.map_cons, shownLine_consPiece, Text.ofLines_cons,
        Text.ofLines_cons, Text.ofLines_cons, Text.afterLine_nil, List.append_nil,
        List.append_assoc]
    | cons next texts =>
      have others : (consLines look (next :: texts) (line :: rest)).map shownLine ≠ [] :=
        mt List.map_eq_nil_iff.1 (consLines_ne_nil look (List.cons_ne_nil _ _) _)
      have first : shownLine (consPiece ⟨look, text⟩ []) = text := by
        rw [shownLine_consPiece]
        exact List.append_nil text
      rw [consLines_cons_cons, List.map_cons, Text.ofLines_cons_of_ne_nil _ others,
        ih (List.cons_ne_nil _ _), first, Text.ofLines_cons_of_ne_nil _ (List.cons_ne_nil _ _),
        List.append_assoc, List.cons_append]

/-- The lines of a listing show what its tokens spell. -/
theorem shown_lines (tokens : List Token) :
    Text.ofLines ((lines tokens).map shownLine) = Lexer.spelled tokens := by
  induction tokens with
  | nil => rfl
  | cons token tokens ih =>
    rw [lines, shown_consLines _ (Text.lines_ne_nil _) (lines_ne_nil tokens), ih,
      Text.ofLines_lines, Lexer.spelled_cons]

end Listing

namespace Lexer

theorem spelled_tokens_eq (source : Text) :
    spelled (tokens source) = Text.ofLines ((markupLines (normalise source)).map kept) := by
  rw [← map_token_readings]
  exact (readsLines_markupLines 0 (normalise source)).written

/-- The tokens of a source spell its lines, all but the spaces behind a terminator alone on its
line. They spell the whole source exactly if no terminator has spaces behind it up to the end of its
line, and a listing shows what they spell. -/
theorem spelled_tokens (source : Text) :
    spelled (tokens source) = Text.ofLines ((markupLines (normalise source)).map kept) ∧
    (spelled (tokens source) = normalise source ↔
      ∀ spaces, Directive.mark ++ Directive.terminator ++ spaces ∈ markupLines (normalise source) →
        spaces.all isSpace = true → spaces = []) ∧
    Text.ofLines ((Listing.lines (tokens source)).map Listing.shownLine) =
      spelled (tokens source) := by
  refine ⟨spelled_tokens_eq source, ?_, Listing.shown_lines _⟩
  have whole := ofLines_map_kept_eq_iff (markupLines (normalise source))
  rw [ofLines_markupLines] at whole
  rw [spelled_tokens_eq, whole]
  constructor
  · intro keeps spaces among
    exact kept_eq_self_iff.1 (keeps _ among) spaces rfl
  · intro bare line among
    refine kept_eq_self_iff.2 ?_
    rintro spaces rfl
    exact bare spaces among

/-- The spaces behind a terminator are lost. -/
theorem spelled_tokens_of_spaced_terminator :
    spelled (tokens "::end  \nx") = "::end\nx\n" ∧
      spelled (tokens "::end  \nx") ≠ normalise "::end  \nx" := by
  have seen : normalise "::end  \nx" = "::end  \nx\n" := by decide
  have bare : ¬ (['%', '%'] : Text) <:+: "::end  \nx\n" := Text.cut?_eq_none_iff.1 (by decide)
  have spells : spelled (tokens "::end  \nx") = "::end\nx\n" := by
    rw [spelled_tokens_eq, seen, markupLines_eq_lines bare]
    decide
  refine ⟨spells, ?_⟩
  rw [spells, seen]
  decide

end Lexer
end PageDirectives
