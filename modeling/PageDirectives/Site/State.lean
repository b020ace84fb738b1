import PageDirectives.Header
import PageDirectives.Settings.Basic
import PageDirectives.Site.Files
import PageDirectives.Site.CommandLine
/-!
What is known of a run at each point: the choices at first, then the sources, their documents, the
results, and what was written.
-/
namespace PageDirectives

/-- A document as it was read. -/
structure Document where
  path : Path
  /-- The path from the input directory on. -/
  place : Path
  source : Source

/-- A document as it was transformed. -/
structure Result where
  document : Document
  text : Text
  /-- The names of directives that nobody claimed. -/
  leftovers : List Text

/-- What was written. -/
structure Summary where
  files : List Text
  written : Int
  /-- The names of directives that nobody claimed, for each document that has any. -/
  leftovers : List (Text × List Text)
  deriving Repr, DecidableEq

/-- The state of a run. -/
structure SiteState where
  choices : Choices
  input : Option Path
  output : Option Path
  /-- Whether input and output were found in order. -/
  checked : Bool := false
  sources : List Path := []
  documents : Option (List Document) := none
  results : Option (List Result) := none
  summary : Option Summary := none

namespace SiteState

/-- The path of a directory as messages show it. -/
def shown (directory : Option Path) : Text := (directory.map Path.write).getD "None"

end SiteState
end PageDirectives
