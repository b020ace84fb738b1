import PageDirectives.Directive.Form
import PageDirectives.Text.Blank
import PageDirectives.Text.Search
/-!
Finding the directives of one name in a text. An inline directive is a line `::name`, a blank, and
at least one more character. A block opens with a line whose name is complete and runs to the first
later line that closes blocks. Both begin at the very start of a line.
-/
namespace PageDirectives

namespace Text

/-- A text up to its first line feed. -/
def firstLine (text : Text) : Text := text.takeWhile (· != '\n')

/-- A text cut before its first line with a property. The flag tells whether a line begins at the
front. -/
def cutAtLine? (p : Text → Bool) (lineStart : Bool) : Text → Option (Text × Text)
  | [] => if lineStart && p [] then some ([], []) else none
  | c :: text =>
    if lineStart && p (firstLine (c :: text)) then some ([], c :: text)
    else (cutAtLine? p (c == '\n') text).map fun (before, rest) => (c :: before, rest)

end Text

namespace Directive

/-- Whether a line closes a block: the terminator and nothing but blanks after it. -/
def closes (line : Text) : Bool :=
  match Text.after? (mark ++ terminator) line with
  | some rest => rest.all Text.isInlineBlank
  | none => false

/-- The part of a block behind its name: the rest of the opening line, the body, and the size of
all up to the end of the closing line. -/
structure BlockTail where
  args : Text
  body : Text
  size : Nat

/-- Reads a block behind its name, given which lines close it. -/
def blockTail? (isClosing : Text → Bool) (text : Text) : Option BlockTail :=
  let args := Text.firstLine text
  match text.drop args.length with
  | [] => none
  | _ :: rest =>
    (Text.cutAtLine? isClosing true rest).map fun (body, closing) =>
      ⟨args, body, args.length + 1 + body.length + (Text.firstLine closing).length⟩

/-- Whether a name is complete at the front of a text. -/
def nameEnds : Text → Bool
  | [] => true
  | c :: _ => !Text.isNameChar c

/-- The rest of an inline directive behind its name: a blank and at least one more character. -/
def inlineTail? (text : Text) : Option Text :=
  match Text.firstLine text with
  | c :: d :: rest => if Text.isInlineBlank c then some (c :: d :: rest) else none
  | _ => none

/-- Recognises inline directives of one name. -/
def inlineForm (name : Text) (page : Entries) : Recogniser Occurrence := fun lineStart text =>
  if !lineStart then none
  else do
    let tail ← inlineTail? (← Text.after? (mark ++ name) text)
    let value := Text.trim tail
    let size := (mark ++ name).length + tail.length
    some (⟨.inline, name, value, value, [], text.take size, page⟩, size)

/-- Recognises blocks of one name. -/
def blockForm (name : Text) (page : Entries) : Recogniser Occurrence := fun lineStart text =>
  if !lineStart then none
  else do
    let rest ← Text.after? (mark ++ name) text
    if !nameEnds rest then none
    let tail ← blockTail? closes rest
    let size := (mark ++ name).length + tail.size
    some (⟨.block, name, Text.trim tail.args, [], Text.trim tail.body, text.take size, page⟩, size)

/-- Recognises the directives of one name in one form. -/
def recogniser (name : Text) (page : Entries) : Form → Recogniser Occurrence
  | .inline => inlineForm name page
  | .block => blockForm name page

/-- All directives of one name in one form, in document order. -/
def scan (text name : Text) (form : Form) (page : Entries) : List (Located Occurrence) :=
  Search.all (recogniser name page form) text

end Directive
end PageDirectives
