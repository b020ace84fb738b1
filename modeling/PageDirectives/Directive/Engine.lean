import PageDirectives.Directive.Leftover
import PageDirectives.Directive.Trace
/-!
The engine runs every registered handler over a text, in the order of the registry's priorities, and
then deals with the directives nobody claimed. The occurrences for one handler and form are all
found before any of them is replaced, so none is found in what the handler answers to them; what it
has answered in one form it may be handed in its other, and it sees the output of every handler
before it. A handler that fails leaves its occurrence as it was, provided that what it failed with
can be written into the log.
-/
namespace PageDirectives

/-- What happens to directives that nobody claims: they stay with a warning, or they are removed. -/
inductive LeftoverPolicy
  | warn
  | strip
  deriving Repr, DecidableEq

/-- The word for a policy. -/
def LeftoverPolicy.word : LeftoverPolicy → Text
  | warn => "warn"
  | strip => "strip"

/-- The policy that a word names. -/
def LeftoverPolicy.ofWord? (text : Text) : Option LeftoverPolicy :=
  [warn, strip].find? (·.word == text)

/-- Handlers to run, what to do with the rest, and the line between sections. -/
structure Engine where
  registry : Registry
  policy : LeftoverPolicy
  delimiter : Text

/-- A word that names no policy. -/
structure UnknownPolicy where
  word : Text
  deriving Repr, DecidableEq

/-- The wording for a word that names no policy. -/
def UnknownPolicy.message (e : UnknownPolicy) : Text :=
  "Unknown unprocessed policy " ++ Text.quoted e.word ++
    "; expected one of ('warn', 'strip')"

namespace Engine

/-- An engine with a registry, a policy by its word, and a delimiter; an empty word or delimiter
counts as none given. -/
def make (registry : Registry) (policy delimiter : Option Text)
    (defaultPolicy defaultDelimiter : Text) : Except UnknownPolicy Engine :=
  let word := Text.orElse policy defaultPolicy
  match LeftoverPolicy.ofWord? word with
  | some policy => .ok ⟨registry, policy, Text.orElse delimiter defaultDelimiter⟩
  | none => .error ⟨word⟩

/-- What takes the place of an occurrence: the text of the handler's answer, nothing for null, or
the occurrence as written if the handler fails. A failure that has no wording is not caught, nor is
an answer that has no text. -/
def replacement (r : Registration) (o : Directive.Occurrence) : Traced Text := do
  Traced.call ⟨r.handler.origin, o⟩
  match r.handler.run o with
  | .error failure =>
    let message ← Traced.ofExcept failure.message
    Traced.log [.diagnostic .error ("Error in ::" ++ r.name ++ " handler: " ++ message)]
    pure o.raw
  | .ok .null => pure []
  | .ok v => Traced.ofExcept v.display

/-- The replacements of several occurrences, in order. -/
def replacements (r : Registration) : List Directive.Occurrence → Traced (List Text)
  | [] => pure []
  | o :: rest => do
    let first ← replacement r o
    let others ← replacements r rest
    pure (first :: others)

/-- The progress line on the occurrences found for a handler. -/
def matchNote (r : Registration) (form : Form) (count : Nat) : Note :=
  .progress 3
    ("::" ++ r.name ++ " (" ++ form.word ++ "): " ++ Integer.digitsOf count ++ " match(es)")

/-- A text with all occurrences of one directive in one form replaced. -/
def applyForm (r : Registration) (page : Entries) (text : Text) (form : Form) : Traced Text := do
  match Directive.scan text r.name form page with
  | [] => pure text
  | hits =>
    Traced.log [matchNote r form hits.length]
    let others ← replacements r (hits.map (·.found))
    pure (Splice.behind text 0 ((hits.map fun h => (h.start, h.stop)).zip others))

/-- A text with one directive replaced in all forms chosen for it. -/
def applyForms (r : Registration) (page : Entries) (text : Text) : Traced Text :=
  r.forms.list.foldlM (applyForm r page) text

/-- A text after all handlers have run. -/
def expand (engine : Engine) (page : Entries) (text : Text) : Traced Text :=
  engine.registry.sorted.foldlM (fun text r => applyForms r page text) text

/-- The diagnostic on a name that nobody claimed. -/
def leftoverNote (policy : LeftoverPolicy) (name : Text) : Note :=
  match policy with
  | .warn => .diagnostic .warning ("Unprocessed directive ::" ++ name)
  | .strip => .diagnostic .debug ("Removed unprocessed directive ::" ++ name)

/-- A text after the policy has dealt with what nobody claimed. Nothing is removed unless a name
other than the terminator is left over. -/
def settle (policy : LeftoverPolicy) (text : Text) : Traced Text := do
  let names := Directive.leftovers text
  Traced.log (names.map (leftoverNote policy))
  match policy with
  | .warn => pure text
  | .strip => pure (if names = [] then text else Directive.stripLeftovers text)

/-- A text with its directives replaced and the rest settled. -/
def process (engine : Engine) (page : Entries) (text : Text) : Traced Text := do
  let text ← expand engine page text
  settle engine.policy text

/-- The text of a value with its directives replaced; a value that counts as false has none. -/
def processValue (engine : Engine) (page : Entries) (content : Value) : Traced Text := do
  let text ← if content.isTruthy then Traced.ofExcept content.display else pure []
  process engine page text

end Engine
end PageDirectives
