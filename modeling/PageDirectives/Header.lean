import PageDirectives.Text.Blank
import PageDirectives.Yaml.Meaning
/-!
Headers of documents. A document that begins with a fence, a line of three hyphens with nothing but
blanks behind them, has a header if a second fence follows: the YAML between the two. The rest is
the body.
-/
namespace PageDirectives

/-- A document with a header: the lines between the fences, and what follows the second fence. -/
structure Headed where
  raw : Text
  body : Text
  deriving Repr, DecidableEq

namespace Headed

/-- The mark of a fence. -/
def fenceMark : Text := "---"

/-- Whether a line is a fence. -/
def isFence (line : Text) : Bool :=
  match Text.after? fenceMark line with
  | some rest => Text.isAllBlank rest
  | none => false

/-- The lines before the first fence and those after it. -/
def cutAtFence? : List Text → Option (List Text × List Text)
  | [] => none
  | line :: rest =>
    if isFence line then some ([], rest)
    else (cutAtFence? rest).map fun (before, behind) => (line :: before, behind)

/-- Lines with a line feed behind each. -/
def closedLines (lines : List Text) : Text := lines.flatMap (· ++ ['\n'])

/-- Reads the header of a document, if it has one. -/
def ofText? (text : Text) : Option Headed :=
  match Text.lines text with
  | [] => none
  | first :: rest =>
    if isFence first then
      (cutAtFence? rest).map fun (before, behind) => ⟨closedLines before, Text.ofLines behind⟩
    else none

/-- A header and a body as a document. Without a header there are no fences. -/
def join (raw body : Text) : Text :=
  if raw = [] then body
  else
    let closed := if raw.getLast? = some '\n' then raw else raw ++ ['\n']
    fenceMark ++ '\n' :: closed ++ fenceMark ++ '\n' :: body

end Headed

/-- Why a header gives no fields. -/
inductive HeaderError
  | yaml (e : Yaml.YamlError)
  | notAMapping (kind : Text)
  deriving Repr, DecidableEq

/-- The wording of a header error. -/
def HeaderError.message : HeaderError → Text
  | yaml e => e.message
  | notAMapping kind => "Frontmatter must be a mapping, got " ++ kind

/-- A document taken apart: the fields of its header, the header as it is written, and the body. -/
structure Source where
  fields : Entries
  raw : Text
  body : Text

namespace Source

/-- The fields that the text of a header gives. A header of blanks or without a value gives none. -/
def fieldsOf (raw : Text) : Except HeaderError Entries :=
  if Text.isAllBlank raw then .ok []
  else
    match Yaml.read raw with
    | .error e => .error (.yaml e)
    | .ok .null => .ok []
    | .ok (.map entries) => .ok entries
    | .ok v => .error (.notAMapping v.kind)

/-- Takes a document apart. -/
def ofText (text : Text) : Except HeaderError Source :=
  match Headed.ofText? text with
  | none => .ok ⟨[], [], text⟩
  | some h => (fieldsOf h.raw).map fun fields => ⟨fields, h.raw, h.body⟩

end Source
end PageDirectives
