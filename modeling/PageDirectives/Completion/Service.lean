import PageDirectives.Completion.Prompt
import PageDirectives.Directive.Failure
import PageDirectives.Settings.Basic
/-!
Completion services. A service answers a query in the light of what was called, asked and sent
before. One that is switched off refuses everything, one with a script gives its answers in order,
and a router sends requests to a model, or lets several models compete for them. How requests travel
is up to a transport, which replies in any way; time is not counted, and a call that takes too long
is one that fails so.
-/
namespace PageDirectives

/-- A request for one completion as it is sent. -/
structure Request where
  model : Text
  prompt : Text
  apiKey : Value
  timeout : Value
  siteUrl : Value
  /-- The models that compete, and how one of them is chosen. -/
  routing : Option (List Value × Value)

/-- What a service was called with so far, the calls whose work began, and the requests that were
sent for them. -/
structure Dialogue where
  called : List Query := []
  asked : List Query := []
  sent : List Request := []

/-- How a call hands over its outcome: at once, with nothing to wait for; in a future that is done;
or by work that begins only when it is waited for. -/
inductive Delivery
  | atOnce
  | done
  | awaited
  deriving Repr, DecidableEq

/-- What a service does about a query: it may send a request, and it answers or fails. -/
structure Answer where
  request : Option Request := none
  outcome : Except Failure Value
  delivery : Delivery := .awaited

/-- A completion service. -/
structure Service where
  enabled : Bool
  answer : Dialogue → Query → Answer

/-- What comes back for a request: a content, something that holds none, or a failure. -/
inductive Reply
  | content (v : Value)
  | malformed
  | failed (f : Failure)

/-- How requests are carried: the reply to the n-th of them. -/
abbrev Transport := Nat → Reply

/-- The entries of a request in the order in which they are sent. -/
def Request.entries (r : Request) : Entries :=
  let message : Value :=
    .map [(.text "role", .text "user"), (.text "content", .text r.prompt)]
  [(.text "model", .text ("openrouter/" ++ r.model)),
    (.text "messages", .list [message]),
    (.text "api_key", r.apiKey),
    (.text "timeout", r.timeout),
    (.text "extra_headers", .map [(.text "HTTP-Referer", r.siteUrl),
      (.text "X-Title", .text "Standard Framework")])] ++
  match r.routing with
  | none => []
  | some (models, route) =>
    [(.text "extra_body", .map [(.text "models", .list models), (.text "route", route)])]

namespace Service

/-- The service of runs without completions. -/
def disabled : Service :=
  ⟨false, fun _ _ => { outcome := .error (.reported (.text "AI service is disabled")) }⟩

/-- A service that gives its answers in order and then counts on. -/
def scripted (enabled : Bool) (answers : List (Except Failure Value)) : Service :=
  ⟨enabled, fun past _ =>
    let number := past.called.length
    { outcome := answers[number]?.getD
        (.ok (.text ("response " ++ Integer.digitsOf (number + 1)))) }⟩

end Service

/-- A service that sends requests to a model or between several models. -/
structure Router where
  apiKey : Value
  model : Value
  models : Value
  route : Value
  siteUrl : Value
  timeout : Value
  enabled : Bool

/-- What the author of a router says about it; null leaves a choice to the settings. -/
structure RouterChoices where
  apiKey : Value := .null
  model : Value := .null
  models : Value := .null
  route : Value := .null
  siteUrl : Value := .null
  timeout : Value := .null
  enabled : Value := .null

namespace Value

/-- A value, or another one if it is null. -/
def unlessNull (v otherwise : Value) : Value :=
  match v with
  | null => otherwise
  | v => v

/-- A value, or another one if it counts as false. -/
def unlessFalse (v otherwise : Value) : Value := if v.isTruthy then v else otherwise

/-- An optional text as a value. -/
def ofText? (text : Option Text) : Value := (text.map Value.text).getD null

end Value

namespace Router

/-- A router by choices and settings. Several models are routed by price unless something else is
chosen, and a router without a key is not enabled. -/
def make (choices : RouterChoices) (settings : Settings) : Router :=
  let apiKey := choices.apiKey.unlessNull (Value.ofText? settings.aiApiKey)
  let models := choices.models.unlessNull
    ((settings.aiModels.map fun ms => Value.list (ms.map .text)).getD .null)
  let cheapest : Value := if models.isTruthy then .text "cheapest" else .null
  let wanted := choices.enabled.unlessNull (.bool settings.aiEnabled)
  { apiKey, models
    model := choices.model.unlessFalse (.text settings.aiModel)
    route := choices.route.unlessFalse ((Value.ofText? settings.aiRoute).unlessFalse cheapest)
    siteUrl := choices.siteUrl.unlessFalse (.text settings.aiSiteUrl)
    timeout := choices.timeout.unlessNull settings.aiTimeout
    enabled := wanted.isTruthy && apiKey.isTruthy }

/-- The request for a query. A model among the options of the query rules out a choice of models. -/
def request (router : Router) (query : Query) : Except Failure Request := do
  let chosen := (query.options.at? "model").getD .null
  let model ← Failure.ofNumber (chosen.unlessFalse router.model).display
  let routing ← if router.models.isTruthy && !chosen.isTruthy then
      match router.models.items? with
      | some models => .ok (some (models, router.route))
      | none => .error (.notIterable router.models.qualifiedKind)
    else .ok none
  .ok ⟨model, query.prompt, router.apiKey, router.timeout, router.siteUrl, routing⟩

/-- A failure as a router reports it, by its wording. Without a wording there is another failure
instead of the report. -/
def report (f : Failure) : Failure :=
  match f.message with
  | .ok message => .reported (.text message)
  | .error e => .number e

/-- The report of a reply without a content. -/
def invalid : Failure := .reported (.text "Invalid response from OpenRouter API")

/-- The content of a reply. One that is empty or absent is a failure. -/
def contentOf : Reply → Except Failure Value
  | .failed f => .error (report f)
  | .malformed => .error invalid
  | .content v => if v.isTruthy then .ok v else .error invalid

/-- What a router does about a query. -/
def answer (router : Router) (transport : Transport) (past : Dialogue) (query : Query) : Answer :=
  if !router.apiKey.isTruthy then
    { outcome := .error (.reported (.text "OpenRouter API key not configured")) }
  else
    match router.request query with
    | .error f => { outcome := .error (report f) }
    | .ok request =>
      { request := some request, outcome := contentOf (transport past.sent.length) }

/-- A router as a service. -/
def service (router : Router) (transport : Transport) : Service :=
  ⟨router.enabled, router.answer transport⟩

end Router

/-- The service that settings ask for. -/
def Service.ofSettings (settings : Settings) (transport : Transport) : Service :=
  if settings.aiEnabled then (Router.make {} settings).service transport else Service.disabled

/-- A dialogue with one more call whose work is done. -/
def Dialogue.after (past : Dialogue) (query : Query) (answer : Answer) : Dialogue :=
  ⟨past.called ++ [query], past.asked ++ [query], past.sent ++ answer.request.toList⟩

/-- A dialogue with one more call whose work never begins. -/
def Dialogue.afterIdle (past : Dialogue) (query : Query) : Dialogue :=
  { past with called := past.called ++ [query] }

end PageDirectives
