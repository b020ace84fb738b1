import PageDirectives.Layout.Media
import PageDirectives.Text.Case
/-!
Buttons and forms. A button is a link in brackets and parentheses; a form has one field for each
line of its block.
-/
namespace PageDirectives.Layout

/-- One or more characters up to a mark, and what follows the mark. -/
def upTo? (stop : Char) (text : Text) : Option (Text × Text) :=
  let word := text.takeWhile (· != stop)
  match word, text.drop word.length with
  | _ :: _, _ :: rest => some (word, rest)
  | _, _ => none

/-- Reads the text and the address of a link. -/
def linkForm : Recogniser (Text × Text) := fun _ text => do
  let (label, rest) ← upTo? ']' (← Text.after? ['['] text)
  let (url, _) ← upTo? ')' (← Text.after? ['('] rest)
  some ((label, url), label.length + url.length + 4)

/-- A button, or the block as it is if it holds no link. -/
def buttonHandler : Handler := Handler.ofText fun o =>
  match Search.firstFrom linkForm 0 true o.content with
  | none => .ok o.raw
  | some hit =>
    let (label, url) := hit.found
    .ok ("<a href=\"" ++ url ++ "\" class=\"" ++
      variantClass "button" " button-" (Text.trim o.args) ++ "\">" ++ label ++ "</a>\n")

/-- One field of a form. The field for messages has room for several lines. -/
def field (label : Text) : Text :=
  let name := Text.lower label
  let kind : Text := if name = "email".toList then "email" else "text"
  let control : Text :=
    if name = "message".toList then
      "    <textarea id=\"" ++ name ++ "\" name=\"" ++ name ++ "\" required></textarea>\n"
    else
      "    <input type=\"" ++ kind ++ "\" id=\"" ++ name ++ "\" name=\"" ++ name ++
        "\" required>\n"
  "  <div class=\"form-field\">\n    <label for=\"" ++ name ++ "\">" ++ label ++ "</label>\n" ++
    control ++ "  </div>\n"

/-- A form; without arguments it is for contact. -/
def formHandler : Handler := Handler.ofText fun o =>
  let kind := Text.orElse (some (Text.trim o.args)) "contact"
  let labels := ((Text.lines o.content).map Text.trim).filter (· != [])
  .ok ("<form class=\"form form-" ++ kind ++ "\" method=\"POST\" action=\"/api/" ++ kind ++
    "\">\n" ++ labels.flatMap field ++
    "  <button type=\"submit\" class=\"button button-primary\">Send</button>\n</form>\n")

end PageDirectives.Layout
