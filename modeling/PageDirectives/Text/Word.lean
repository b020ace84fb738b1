import PageDirectives.Text.Basic
import PageDirectives.Text.Toggles
import PageDirectives.Text.WordTable
/-!
The characters of names: letters and numbers of all scripts, the low line, and the hyphen that
joins the parts of a name. Combining marks are not among them.
-/
namespace PageDirectives.Text

/-- Whether a character is a letter or a number of some script. -/
def isAlphanumeric (c : Char) : Bool :=
  if c.toNat < 128 then c.isAlphanum else Toggles.has alphanumericToggles c.toNat

/-- Whether a character can stand in a word. -/
def isWordChar (c : Char) : Bool := isAlphanumeric c || c == '_'

/-- Whether a character can stand in a name after its first character. -/
def isNameChar (c : Char) : Bool := isWordChar c || c == '-'

/-- Whether a character can begin a name: an ASCII letter or the low line. -/
def isNameStart (c : Char) : Bool := c.isAlpha || c == '_'

/-- Whether a whole text has the shape of a name. -/
def isName : Text → Bool
  | [] => false
  | c :: text => isNameStart c && text.all isNameChar

end PageDirectives.Text
