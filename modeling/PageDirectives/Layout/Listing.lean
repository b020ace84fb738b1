import PageDirectives.Layout.Grid
import PageDirectives.Markup.Lexer
/-!
Code listings. Directive markup is read by the lexer of this library; for any other language the
highlighter is asked by its name, and a source in a language that nobody knows is shown as plain
text. Nothing is assumed of the highlighter, neither which languages it knows nor what its markup
looks like. No line of a listing begins with the mark of directives, so later handlers leave
listings alone.
-/
namespace PageDirectives

/-- What makes markup of sources, in some style: of the tokens of directive markup, of a source in a
language that it knows by name, and of plain text. -/
structure Highlighter where
  directives : List Token → Except Failure Text
  named? : Text → Option (Text → Except Failure Text)
  plain : Text → Except Failure Text

namespace Listing

/-- The names of directive markup as a language. -/
def markupNames : List Text := ["layoutsyntax", "directives"]

/-- Reads the mark of directives at the start of a line. -/
def markAtLineStart : Recogniser Unit := fun lineStart text =>
  if lineStart && Text.startsWith text Directive.mark then some ((), Directive.mark.length)
  else none

/-- A text in which no line begins with the mark of directives. -/
def disarm (text : Text) : Text := Search.exchange markAtLineStart (fun _ => "&#58;:") text

/-- The language that arguments name; without arguments it is plain text. -/
def language (args : Text) : Text := (Text.words args).headD "text"

end Listing

/-- The markup of a source in a language. -/
def Highlighter.highlight (highlighter : Highlighter) (language source : Text) :
    Except Failure Text :=
  if Listing.markupNames.contains (Text.lower language) then
    highlighter.directives (Lexer.tokens source)
  else
    match highlighter.named? language with
    | some shown => shown source
    | none => highlighter.plain source

/-- A code listing. -/
def Listing.handler (highlighter : Highlighter) : Handler := Handler.ofText fun o =>
  (highlighter.highlight (language o.args) o.content).map disarm

end PageDirectives
