import PageDirectives.Value.Basic
import PageDirectives.Number.Decimal
/-!
The settings of a run and their defaults.
-/
namespace PageDirectives

/-- The settings of a run. -/
structure Settings where
  /-- The line between sections of a block. -/
  sectionDelimiter : Text := "---"
  /-- The priority of registrations that give none. -/
  defaultPriority : Int := 100
  /-- What happens to directives that nobody claims. -/
  unprocessedPolicy : Text := "warn"
  /-- Whether directives for completions are resolved. -/
  aiEnabled : Bool := true
  /-- The key of the completion service. -/
  aiApiKey : Option Text := none
  /-- The model that completes prompts. -/
  aiModel : Text := "anthropic/claude-3.5-sonnet"
  /-- Models between which the completion service may choose. -/
  aiModels : Option (List Text) := none
  /-- How the completion service chooses. -/
  aiRoute : Option Text := none
  /-- The seconds that one completion may take, as a number. -/
  aiTimeout : Value := .float (Double.ofRatio false 60 1)
  /-- The address of the site, for the completion service. -/
  aiSiteUrl : Text := "https://standard.ffp.co"
  /-- The prompt of a directive that has none. -/
  aiDefaultPrompt : Text := "Say hello"
  /-- The languages whose fences are taken off. -/
  escapeCodeBlocks : List Text := []
  /-- The style of code listings. -/
  listingStyle : Text := "monokai"
  /-- The pattern that selects sources. -/
  inputPattern : Text := "**/*.md"
  deriving Repr

end PageDirectives
