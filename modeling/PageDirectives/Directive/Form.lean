import PageDirectives.Text.Word
import PageDirectives.Value.Basic
/-!
The two forms of a directive, the names directives can have, and one directive as found in a text.
-/
namespace PageDirectives

/-- How a directive is written: on one line, or as a block up to a closing line. -/
inductive Form
  | inline
  | block
  deriving Repr, DecidableEq

/-- The forms in which a name is recognised. -/
inductive Forms
  | inline
  | block
  | both
  deriving Repr, DecidableEq

/-- The word for a form. -/
def Form.word : Form → Text
  | inline => "inline"
  | block => "block"

namespace Forms

/-- The word for a choice of forms. -/
def word : Forms → Text
  | inline => "inline"
  | block => "block"
  | both => "both"

/-- The choice that a word names. -/
def ofWord? (text : Text) : Option Forms := [inline, block, both].find? (·.word == text)

/-- Whether a form is among those chosen. -/
def has : Forms → Form → Bool
  | both, _ => true
  | inline, .inline => true
  | block, .block => true
  | _, _ => false

/-- The forms chosen, in the order in which they are tried. -/
def list (forms : Forms) : List Form := [Form.inline, Form.block].filter forms.has

end Forms

namespace Directive

/-- The mark that begins a directive. -/
def mark : Text := [':', ':']

/-- The name that closes blocks and cannot be registered. -/
def terminator : Text := "end"

/-- Whether a name has a meaning of its own and cannot be registered. -/
def isReserved (name : Text) : Bool := name == terminator

/-- One directive as found in a text. -/
structure Occurrence where
  form : Form
  name : Text
  /-- The rest of the opening line, trimmed. -/
  args : Text
  /-- The same for an inline directive, nothing for a block. -/
  value : Text
  /-- What stands between the opening and the closing line, trimmed. -/
  content : Text
  /-- The directive as written. -/
  raw : Text
  /-- The data of the page it stands on. -/
  page : Entries
  deriving Repr

end Directive
end PageDirectives
