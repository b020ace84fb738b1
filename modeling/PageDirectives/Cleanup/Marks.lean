import PageDirectives.Directive.Scan
import PageDirectives.Value.Printer
/-!
Small changes of running text: comments between pairs of percent signs and callouts of comments
disappear, highlights become marks, and the fences of code in chosen languages come off.
-/
namespace PageDirectives.Cleanup

/-- Reads a comment between two pairs of percent signs. -/
def comment : Recogniser Unit := fun _ text => do
  let (body, _) ← Text.cut? ['%', '%'] (← Text.after? ['%', '%'] text)
  some ((), body.length + 4)

/-- A text without comments. -/
def stripComments (text : Text) : Text := Search.exchange comment (fun _ => []) text

/-- The size of the lines at the front of a text that begin with a quotation mark, with their line
feeds. -/
def quotedSize (lineStart : Bool) : Text → Nat
  | [] => 0
  | c :: text => if lineStart && c != '>' then 0 else 1 + quotedSize (c == '\n') text

/-- Reads a callout of comments: a header line that ends, and the quoted lines behind it. -/
def commentCallout : Recogniser Unit := fun lineStart text =>
  if !lineStart then none
  else do
    let rest ← Text.after? "> [!comment" text
    let tail := (Text.after? ['s'] rest).getD rest
    let _ ← Text.after? [']'] tail
    let header := Text.firstLine text
    match text.drop header.length with
    | [] => none
    | _ :: rest => some ((), header.length + 1 + quotedSize true rest)

/-- A text without callouts of comments. -/
def stripCommentCallouts (text : Text) : Text := Search.exchange commentCallout (fun _ => []) text

/-- Reads a highlight: on one line, at least one character between two pairs of equals signs. -/
def highlight : Recogniser Text := fun _ text => do
  let rest ← Text.after? ['=', '='] text
  match Text.firstLine rest with
  | [] => none
  | c :: line =>
    let (body, _) ← Text.cut? ['=', '='] line
    some (c :: body, body.length + 5)

/-- A text with its highlights as marks. -/
def markHighlights (text : Text) : Text :=
  Search.exchange highlight (fun body => "<mark>" ++ body ++ "</mark>") text

/-- The mark of fences. -/
def fence : Text := List.replicate 3 (Char.ofNat 96)

/-- What follows the closing line of a fence, at the line feed before it. -/
def closesFence (text : Text) : Bool :=
  match Text.after? ('\n' :: fence) text with
  | none => false
  | some [] => true
  | some (c :: _) => c == '\n'

/-- A text before its first end with a property. -/
def before? (p : Text → Bool) : Text → Option Text
  | [] => if p [] then some [] else none
  | c :: text => if p (c :: text) then some [] else (before? p text).map (c :: ·)

/-- Reads fenced code in a language: its body lies between the line feed of the opening line and the
next closing line, which has a line feed of its own before it. -/
def fenced (language : Text) : Recogniser Text := fun lineStart text =>
  if !lineStart then none
  else do
    let opening := fence ++ language ++ ['\n']
    let rest ← Text.after? opening text
    let body ← before? closesFence rest
    some (body, opening.length + body.length + 1 + fence.length)

/-- A text without the fences of one language. -/
def unwrapFences (language text : Text) : Text := Search.exchange (fenced language) id text

end PageDirectives.Cleanup
