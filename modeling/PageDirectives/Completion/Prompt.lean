import PageDirectives.Directive.Argument
import PageDirectives.Directive.Scan
/-!
Directives that ask for a completion. Blanks may stand before their mark and before the line that
closes a block. A line opens a block only if its tail is empty or made of arguments alone; any other
line of that name with a tail is inline, unless it lies inside a block.
-/
namespace PageDirectives

/-- A directive that asks for a completion. -/
structure Prompted where
  isBlock : Bool
  args : Text
  body : Text
  deriving Repr, DecidableEq

/-- What is asked of a completion service. -/
structure Query where
  prompt : Text
  options : Entries
  deriving Repr

namespace Prompted

/-- The name of directives that ask for completions. -/
def name : Text := "ai"

/-- Whether a line closes a block; blanks may stand before it. -/
def closes (line : Text) : Bool := Directive.closes (line.dropWhile Text.isInlineBlank)

/-- The size of the mark and the name at the front of a line with blanks before them, and what
follows. -/
def opening? (text : Text) : Option (Nat × Text) := do
  let blanks := text.takeWhile Text.isInlineBlank
  let rest ← Text.after? (Directive.mark ++ name) (text.drop blanks.length)
  some (blanks.length + (Directive.mark ++ name).length, rest)

/-- Recognises blocks. -/
def blockForm : Recogniser Prompted := fun lineStart text =>
  if !lineStart then none
  else do
    let (size, rest) ← opening? text
    if !Directive.nameEnds rest then none
    let tail ← Directive.blockTail? closes rest
    let args := Text.trim tail.args
    if args = [] ∨ Argument.isOnlyPairs args then
      some (⟨true, args, tail.body⟩, size + tail.size)
    else none

/-- Recognises inline directives. -/
def inlineForm : Recogniser Prompted := fun lineStart text =>
  if !lineStart then none
  else do
    let (size, rest) ← opening? text
    let tail ← Directive.inlineTail? rest
    some (⟨false, Text.trim tail, []⟩, size + tail.length)

/-- Puts a found form in its place among others by where it starts. -/
def insertByStart (hit : Located Prompted) : List (Located Prompted) → List (Located Prompted)
  | [] => [hit]
  | h :: rest => if hit.start < h.start then hit :: h :: rest else h :: insertByStart hit rest

/-- All directives that ask for completions, in document order. -/
def all (text : Text) : List (Located Prompted) :=
  let blocks := Search.all blockForm text
  let inlines := (Search.all inlineForm text).filter fun hit =>
    !blocks.any fun block => block.start ≤ hit.start && hit.start < block.stop
  inlines.foldl (fun hits hit => insertByStart hit hits) blocks

/-- The model and the prompt that inline arguments name. -/
def modelPrompt? (args : Text) : Option (Text × Text) := do
  let rest ← Text.after? "model=" args
  let model := rest.takeWhile (!Text.isBlank ·)
  let prompt := Text.trim (rest.drop model.length)
  if model = [] ∨ prompt = [] then none else some (model, prompt)

/-- Arguments as options. -/
def optionsOf (args : Text) : Entries :=
  (Argument.ofText args).map fun pair => (.text pair.key, .text pair.value)

/-- What a directive asks. A block asks its body, else its arguments, else the default prompt. -/
def query (p : Prompted) (defaultPrompt : Text) : Query :=
  if p.isBlock then
    ⟨Text.orElse (some (Text.trim p.body)) (Text.orElse (some p.args) defaultPrompt),
      optionsOf p.args⟩
  else
    match modelPrompt? p.args with
    | some (model, prompt) => ⟨prompt, [(.text "model", .text model)]⟩
    | none => ⟨p.args, []⟩

end Prompted
end PageDirectives
