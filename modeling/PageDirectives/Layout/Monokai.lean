import PageDirectives.Layout.Listing
import PageDirectives.Text.Escaped
/-!
A highlighter of one style, which knows no language but directive markup. Each line of a source
becomes a line of pieces, and neighbouring pieces of one look are one piece.
-/
namespace PageDirectives

namespace Listing

/-- The look of a kind of token; plain text has none. -/
def look : TokenKind → Option Text
  | .text => none
  | .whitespace | .punctuation | .variable => some "color: #F8F8F2"
  | .comment => some "color: #959077"
  | .keyword | .declaration => some "color: #66D9EF"
  | .decorator | .attribute => some "color: #A6E22E"
  | .tag | .operator => some "color: #FF4689"
  | .string => some "color: #E6DB74"
  | .number => some "color: #AE81FF"
  | .error => some "color: #ED007E; background-color: #1E0010"

/-- A piece of a line and its look. -/
structure Piece where
  look : Option Text
  text : Text

/-- A piece before the pieces of a line; one that looks like the first is joined to it. -/
def consPiece (piece : Piece) (line : List Piece) : List Piece :=
  if piece.text = [] then line
  else
    match line with
    | [] => [piece]
    | next :: rest =>
      if next.look = piece.look then ⟨piece.look, piece.text ++ next.text⟩ :: rest
      else piece :: line

/-- The texts of a token's lines before lines that follow it: the last of them continues the
first. -/
def consLines (look : Option Text) : List Text → List (List Piece) → List (List Piece)
  | [], lines => lines
  | [text], [] => [consPiece ⟨look, text⟩ []]
  | [text], line :: rest => consPiece ⟨look, text⟩ line :: rest
  | text :: texts, lines => consPiece ⟨look, text⟩ [] :: consLines look texts lines

/-- The lines of a token stream, each as pieces of different looks. -/
def lines : List Token → List (List Piece)
  | [] => [[]]
  | token :: rest => consLines (look token.kind) (Text.lines token.text) (lines rest)

/-- A piece as markup. -/
def Piece.markup (p : Piece) : Text :=
  match p.look with
  | none => Text.asMarkup p.text
  | some look => "<span style=\"" ++ look ++ "\">" ++ Text.asMarkup p.text ++ "</span>"

/-- A token stream as markup, one line for each of its lines. -/
def markup (tokens : List Token) : Text :=
  "<div class=\"highlight\" style=\"background: #272822\">" ++
    "<pre style=\"line-height: 125%;\"><span></span>" ++
    Text.ofLines ((lines tokens).map (·.flatMap Piece.markup)) ++ "</pre></div>\n"

/-- The highlighter of this style. -/
def monokai : Highlighter where
  directives tokens := .ok (markup tokens)
  named? _ := none
  plain source := .ok (markup [⟨.text, Lexer.normalise source⟩])

end Listing

/-- The highlighters of a program that has one style. -/
def Highlighter.ofStyle (style : Text) : Highlighter :=
  if style = "monokai".toList then Listing.monokai
  else
    let missing : Failure := .reported (.text ("Could not find style " ++ Text.quoted style))
    ⟨fun _ => .error missing, fun _ => none, fun _ => .error missing⟩

end PageDirectives
