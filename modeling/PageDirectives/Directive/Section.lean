import PageDirectives.Text.Blank
import PageDirectives.Value.Printer
/-!
Sections of a block body. A delimiter counts only where it fills a line between two others, and
sections that hold nothing but blanks are left out.
-/
namespace PageDirectives.Section

/-- The trimmed sections of a text that are not blank, in order. -/
def ofText (delimiter text : Text) : List Text :=
  ((Text.splitAll ('\n' :: delimiter ++ ['\n']) text).map Text.trim).filter (· != [])

/-- The sections of the text of a value; a value that counts as false has none. -/
def ofValue (delimiter : Text) (v : Value) : Except NumberError (List Text) :=
  if v.isTruthy then v.display.map (ofText delimiter) else .ok []

end PageDirectives.Section
