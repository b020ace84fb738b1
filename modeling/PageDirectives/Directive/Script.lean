import PageDirectives.Directive.Argument
import PageDirectives.Directive.Registry
import PageDirectives.Directive.Section
/-!
Handlers written as data: a list of pieces to put together from the occurrence and its page, a fixed
answer, or a failure.
-/
namespace PageDirectives

namespace Directive

/-- The parts of an occurrence that a script can name. -/
inductive Field
  | args
  | value
  | content
  | raw
  | name
  | form
  deriving Repr, DecidableEq

/-- The text of a part of an occurrence. -/
def Occurrence.field (o : Occurrence) : Field → Text
  | .args => o.args
  | .value => o.value
  | .content => o.content
  | .raw => o.raw
  | .name => o.name
  | .form => o.form.word

end Directive

/-- A piece of the answer of a script. -/
inductive Script.Piece
  | literal (s : Text)
  | field (f : Directive.Field)
  | page (key : Value)
  | sections (separator : Text)
  | argument (key : Text)

/-- A handler written as data. -/
inductive Script
  | pieces (ps : List Script.Piece)
  | answer (v : Value)
  | fail (f : Failure)

namespace Script

/-- The text of a piece, where sections are cut at a delimiter. -/
def Piece.text (delimiter : Text) (o : Directive.Occurrence) : Piece → Except Failure Text
  | literal s => .ok s
  | field f => .ok (o.field f)
  | page key =>
    match key.unhashable?, o.page.get? key with
    | some part, _ => .error (.reported (.text (OptionsError.unhashable part.kind).message))
    | none, some v => Failure.ofNumber v.display
    | none, none => .error (.absentKey key)
  | sections separator => .ok (Text.join separator (Section.ofText delimiter o.content))
  | argument key =>
    match Argument.get? key (Argument.ofText o.args) with
    | some value => .ok value
    | none => .error (.absentKey (.text key))

/-- What a script answers to an occurrence. -/
def run (delimiter : Text) (script : Script) (o : Directive.Occurrence) : Except Failure Value :=
  match script with
  | pieces ps => do
    let texts ← ps.mapM (Piece.text delimiter o)
    .ok (.text texts.flatten)
  | answer v => .ok v
  | fail f => .error f

/-- A script as a handler, with a label if it has one. -/
def handler (delimiter : Text) (label : Option Text) (script : Script) : Handler :=
  ⟨.custom label, script.run delimiter⟩

end Script
end PageDirectives
