import PageDirectives.Cleanup.Run
import PageDirectives.Completion.Resolve
import PageDirectives.Directive.Engine
import PageDirectives.Layout.Catalogue
/-!
The transformation of one document: an optional cleanup, then the completions, then the directives.
-/
namespace PageDirectives

/-- Why a document is not transformed. -/
inductive TransformError
  | cleanup (e : Cleanup.CleanupError)
  | number (e : NumberError)
  deriving Repr, DecidableEq

/-- The wording of an error of a transformation. -/
def TransformError.message : TransformError → Text
  | cleanup e => e.message
  | number e => e.message

/-- What becomes of a document. -/
structure Transformed where
  text : Except TransformError Text
  dialogue : Dialogue
  calls : List Call
  notes : List Note

/-- An engine with the whole catalogue. Listings have the highlighter of the style that is set. The
sections of the catalogue follow a delimiter that is given, be it empty; those of the engine only
one that is not. -/
def Engine.withCatalogue (highlighters : Text → Highlighter) (policy delimiter : Option Text)
    (settings : Settings) : Except UnknownPolicy Engine :=
  let registry := Layout.register (highlighters settings.listingStyle)
    (delimiter.getD settings.sectionDelimiter) { defaultPriority := settings.defaultPriority }
  Engine.make registry policy delimiter settings.unprocessedPolicy settings.sectionDelimiter

/-- Completions and directives of a text. -/
def transformText (engine : Engine) (resolver : Resolver) (past : Dialogue) (page : Entries)
    (text : Text) (notes : List Note) : Transformed :=
  let resolved := resolver.resolve past text
  match resolved.text with
  | .error e => ⟨.error (.number e), resolved.dialogue, [], notes ++ resolved.notes⟩
  | .ok text =>
    let run := engine.process page text
    ⟨run.result.mapError .number, resolved.dialogue, run.trace.calls,
      notes ++ resolved.notes ++ run.trace.notes⟩

/-- Transforms a text with the data of its page. -/
def transform (engine : Engine) (resolver : Resolver) (past : Dialogue) (page : Entries)
    (text : Text) (cleaning : Bool) (escapeCodeBlocks : List Text) : Transformed :=
  if cleaning then
    let cleaned := Cleanup.run text page .null escapeCodeBlocks
    match cleaned.text with
    | .error e => ⟨.error (.cleanup e), past, [], cleaned.notes⟩
    | .ok text => transformText engine resolver past cleaned.page text cleaned.notes
  else transformText engine resolver past page text []

end PageDirectives
