import PageDirectives.Completion.Service
import PageDirectives.Journal
/-!
Resolving the directives that ask for completions. Each is answered in document order, by one call,
and the answers take the places of the directives; answers are not read for further directives. What
goes wrong is logged and marked in the text, and the others are not affected, as long as it can be
written.
-/
namespace PageDirectives

/-- How directives are resolved. -/
structure Resolver where
  service : Service
  /-- The seconds one answer may take, as a number. -/
  timeout : Value
  defaultPrompt : Text

/-- The text of a document with its completions, if there is one, what was called, asked and sent
for it, and what was logged. -/
structure Resolved where
  text : Except NumberError Text
  dialogue : Dialogue
  notes : List Note

namespace Resolver

/-- A remark in the place of a directive. -/
def aside (cssClass message : Text) : Text :=
  "<aside class=\"" ++ cssClass ++ "\">[" ++ message ++ "]</aside>"

/-- The mark of a directive whose service is switched off. -/
def disabledMark (isBlock : Bool) : Text :=
  aside (if isBlock then "warning" else "note") "AI disabled"

/-- The mark of a directive that got no answer. -/
def errorMark (message : Text) (isBlock : Bool) : Text :=
  aside (if isBlock then "error" else "note") ("AI Error: " ++ message)

/-- Whether there is no time for an answer at all. A time that no clock can hold is a failure. -/
def isExpired : Value → Except Failure Bool
  | .bool b => .ok !b
  | .int n => if n ≤ 0 then .ok true else (Failure.ofNumber (Double.ofInt n)).map fun _ => false
  | .float x => .ok (x.lt Double.zero || x.isZero)
  | v => .error (.notComparable v.kind)

/-- What a call comes to: its outcome, and the dialogue with the call. -/
structure Attempt where
  dialogue : Dialogue
  outcome : Except Failure Value

/-- One call. It is made before anything looks at the time: what is handed over at once cannot be
waited for, a future that is done needs no time, and only work that is waited for comes too late. -/
def attempt (resolver : Resolver) (past : Dialogue) (query : Query) : Attempt :=
  let answer := resolver.service.answer past query
  let expired := isExpired resolver.timeout
  match answer.delivery, expired with
  | .atOnce, _ => ⟨past.after query answer, do
      let _ ← answer.outcome
      let _ ← expired
      .error .notAwaitable⟩
  | .done, _ => ⟨past.after query answer, do
      let _ ← expired
      answer.outcome⟩
  | .awaited, .ok false => ⟨past.after query answer, answer.outcome⟩
  | .awaited, .ok true => ⟨past.afterIdle query, .error (.timedOut (.text []))⟩
  | .awaited, .error failure => ⟨past.afterIdle query, .error failure⟩

/-- What becomes of one directive: its text if it has one, the dialogue until then, and what is
logged. -/
structure Step where
  text : Except NumberError Text
  dialogue : Dialogue
  notes : List Note := []

/-- A directive without an answer: the reason is marked in the text and logged behind a lead. A
reason that cannot be written leaves no text. -/
def markedStep (lead : Text) (reason : Except NumberError Text) (isBlock : Bool)
    (dialogue : Dialogue) : Step :=
  match reason with
  | .ok message =>
    ⟨.ok (errorMark message isBlock), dialogue, [.diagnostic .error (lead ++ message)]⟩
  | .error e => ⟨.error e, dialogue, []⟩

/-- Why a directive is marked that got no answer in time. -/
def lateness (resolver : Resolver) : Except NumberError Text :=
  resolver.timeout.display.map fun seconds => "timed out after " ++ seconds ++ "s"

/-- Resolves one directive. An answer that is not a text leaves nothing. -/
def step (resolver : Resolver) (past : Dialogue) (p : Prompted) : Step :=
  if !resolver.service.enabled then ⟨.ok (disabledMark p.isBlock), past, []⟩
  else
    let call := resolver.attempt past (p.query resolver.defaultPrompt)
    match call.outcome with
    | .ok (.text s) => ⟨.ok s, call.dialogue, []⟩
    | .ok _ => ⟨.ok [], call.dialogue, []⟩
    | .error (.timedOut _) => markedStep "AI call " resolver.lateness p.isBlock call.dialogue
    | .error failure => markedStep "AI call failed: " failure.message p.isBlock call.dialogue

/-- What becomes of several directives. -/
structure Steps where
  texts : Except NumberError (List Text)
  dialogue : Dialogue
  notes : List Note

/-- Resolves directives one after the other. One that has no text is the last. -/
def steps (resolver : Resolver) (past : Dialogue) : List Prompted → Steps
  | [] => ⟨.ok [], past, []⟩
  | p :: rest =>
    let first := resolver.step past p
    match first.text with
    | .error e => ⟨.error e, first.dialogue, first.notes⟩
    | .ok text =>
      let others := resolver.steps first.dialogue rest
      ⟨others.texts.map (text :: ·), others.dialogue, first.notes ++ others.notes⟩

/-- The progress line on the directives of a document. -/
def countNote (count : Nat) : Note :=
  .progress 2 ("Resolving " ++ Integer.digitsOf count ++ " ::ai directive(s)")

/-- Resolves all directives of a text. -/
def resolve (resolver : Resolver) (past : Dialogue) (text : Text) : Resolved :=
  match Prompted.all text with
  | [] => ⟨.ok text, past, []⟩
  | hits =>
    let done := resolver.steps past (hits.map (·.found))
    ⟨done.texts.map fun texts =>
        Splice.behind text 0 ((hits.map fun h => (h.start, h.stop)).zip texts),
      done.dialogue, countNote hits.length :: done.notes⟩

/-- The resolver that settings ask for, where a timeout and a default prompt may be given. -/
def make (service : Service) (timeout : Value) (defaultPrompt : Option Text)
    (settings : Settings) : Resolver :=
  ⟨service, timeout.unlessNull settings.aiTimeout,
    Text.orElse defaultPrompt settings.aiDefaultPrompt⟩

end Resolver
end PageDirectives
