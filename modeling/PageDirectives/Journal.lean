import PageDirectives.Text.Basic
/-!
What a run has to say about itself. Progress lines are shown from some verbosity on; diagnostics are
always shown. A line belongs to a document while that document is worked on.
-/
namespace PageDirectives

/-- How serious a diagnostic is. -/
inductive Severity
  | debug
  | warning
  | error
  deriving Repr, DecidableEq

/-- One line of a journal. -/
inductive Note
  | progress (level : Int) (message : Text)
  | diagnostic (severity : Severity) (message : Text)
  deriving Repr, DecidableEq

/-- A line of a journal with the document it belongs to, if it belongs to one. -/
structure Journal.Line where
  document : Option Text
  note : Note
  deriving Repr, DecidableEq

/-- The lines of a run in the order in which they were written. -/
abbrev Journal := List Journal.Line

namespace Note

/-- The text of a line. -/
def message : Note → Text
  | progress _ message => message
  | diagnostic _ message => message

/-- How serious a line is; progress is not. -/
def severity : Note → Severity
  | progress .. => .debug
  | diagnostic severity _ => severity

/-- Whether a line is shown at a verbosity. -/
def isShown (verbosity : Int) : Note → Bool
  | progress level _ => level ≤ verbosity
  | diagnostic .. => true

end Note

namespace Journal

/-- Lines of one document, or of none, as a journal. -/
def of (document : Option Text) (notes : List Note) : Journal := notes.map (⟨document, ·⟩)

/-- The lines that are shown at a verbosity. -/
def shown (verbosity : Int) (journal : Journal) : Journal :=
  journal.filter (·.note.isShown verbosity)

end Journal

/-- Where lines are written to: the verbosity of the run at hand, if one is, and the documents that
are worked on, the innermost first. -/
structure Logbook where
  bound : Option Int := none
  documents : List Text := []
  deriving Repr, DecidableEq

namespace Logbook

/-- The verbosity; without a run at hand it is zero. -/
def verbosity (book : Logbook) : Int := book.bound.getD 0

/-- Begins to work on a document. -/
def enter (document : Text) (book : Logbook) : Logbook :=
  { book with documents := document :: book.documents }

/-- Ends the work on the innermost document. -/
def leave (book : Logbook) : Logbook := { book with documents := book.documents.drop 1 }

/-- What is shown of lines written now. -/
def write (book : Logbook) (notes : List Note) : Journal :=
  (Journal.of book.documents.head? notes).shown book.verbosity

end Logbook
end PageDirectives
