import PageDirectives.Text.Basic
/-!
Texts as HTML: markup characters become character references.
-/
namespace PageDirectives.Text

/-- One character of running HTML text: ampersands and angle brackets are escaped. -/
def escapeMarkup (c : Char) : Text :=
  match c with
  | '&' => "&amp;"
  | '<' => "&lt;"
  | '>' => "&gt;"
  | _ => [c]

/-- One character of an attribute: markup and both quotes are escaped. -/
def escapeAttribute (c : Char) : Text :=
  match c with
  | '"' => "&quot;"
  | '\'' => "&#x27;"
  | _ => escapeMarkup c

/-- A text as running HTML text. -/
def asMarkup (text : Text) : Text := text.flatMap escapeMarkup

/-- A text as the value of an attribute. -/
def asAttribute (text : Text) : Text := text.flatMap escapeAttribute

end PageDirectives.Text
