import PageDirectives.Settings.Basic
import PageDirectives.Settings.Scalar
import PageDirectives.Settings.Variables
import PageDirectives.Text.Json
/-!
Settings from variables: those of the environment and those of a file, the environment first. Names
do not depend on case. Lists are JSON; a list that is null is not given. All values that do not suit
their setting are reported together.
-/
namespace PageDirectives.Settings

/-- The places that variables come from. -/
inductive Place
  | environment
  | file
  deriving Repr, DecidableEq

/-- Why settings are not loaded: a list that is no JSON, or values that do not suit, each with the
name of its setting and, in a list, its number. -/
inductive LoadError
  | notJson (setting : Text) (place : Place)
  | unsuited (complaints : List (Text × Complaint))
  deriving Repr, DecidableEq

/-- The word for a place in messages. -/
def Place.word : Place → Text
  | environment => "EnvSettingsSource"
  | file => "DotEnvSettingsSource"

/-- The wording of a load error. -/
def LoadError.message : LoadError → Text
  | notJson setting place =>
    "error parsing value for field \"" ++ setting ++ "\" from source \"" ++ place.word ++ "\""
  | unsuited complaints => Text.join ", " (complaints.map (·.1))

/-- The variables to load settings from, with their names in lower case. -/
structure Given where
  environment : Variables
  file : Variables

namespace Given

/-- What the names of variables for settings begin with. -/
def front : Text := "layoutsyntax_"

/-- The usual name of the key of the completion service. -/
def usualKey : Text := "openrouter_key"

/-- The value that a place gives for a setting. -/
def at? (given : Given) (place : Place) (setting : Text) : Option Text :=
  match place with
  | .environment => given.environment.get? (front ++ setting)
  | .file => given.file.get? (front ++ setting)

/-- The value for a setting. -/
def text? (given : Given) (setting : Text) : Option Text :=
  (given.at? .environment setting).orElse fun _ => given.at? .file setting

/-- The key of the completion service: under its own name anywhere, else under its usual one. -/
def key? (given : Given) : Option Text :=
  (given.text? "ai_api_key").orElse fun _ =>
    (given.environment.get? usualKey).orElse fun _ => given.file.get? usualKey

/-- What a list in a variable is: JSON, or a text that is none. -/
def list? (given : Given) (place : Place) (setting : Text) : Option (Option Json) :=
  (given.at? place setting).map Json.ofText?

/-- A list that is not null. -/
def nonNull : Option (Option Json) → Option (Option Json)
  | some (some .null) => none
  | found => found

/-- The list for a setting. -/
def json? (given : Given) (setting : Text) : Option (Option Json) :=
  (nonNull (given.list? .environment setting)).orElse fun _ => nonNull (given.list? .file setting)

end Given

/-- The value of a setting, if one is given that suits, and what is wrong otherwise. -/
structure Field (α : Type) where
  value : Option α
  complaints : List (Text × Complaint)

namespace Field

/-- The value of a setting that is written as a text. -/
def ofText {α : Type} (given : Given) (setting : Text) (read : Text → Except Complaint α) :
    Field α :=
  match (given.text? setting).map read with
  | none => ⟨none, []⟩
  | some (.ok value) => ⟨some value, []⟩
  | some (.error complaint) => ⟨none, [(setting, complaint)]⟩

/-- The texts of a list and what is wrong with its other items, numbered from some number on. -/
def items (setting : Text) (index : Nat) : List Json → List Text × List (Text × Complaint)
  | [] => ([], [])
  | j :: rest =>
    let (texts, complaints) := items setting (index + 1) rest
    let place := setting ++ '.' :: Integer.digitsOf index
    match j with
    | .text s => (s :: texts, complaints)
    | .unpaired => (texts, (place, .itemNotUnicode) :: complaints)
    | _ => (texts, (place, .itemNotAText) :: complaints)

/-- The value of a setting that is a list of texts. -/
def ofList (given : Given) (setting : Text) : Field (List Text) :=
  match given.json? setting with
  | none => ⟨none, []⟩
  | some (some (.list found)) =>
    let (texts, complaints) := items setting 0 found
    ⟨some texts, complaints⟩
  | some _ => ⟨none, [(setting, .notAList)]⟩

end Field

/-- Reads one of the policies for directives that nobody claims. -/
def readPolicy (text : Text) : Except Complaint Text :=
  if text = "warn" ∨ text = "strip" then .ok text else .error .notAChoice

/-- The place, if there is one, whose value for a setting is no JSON. -/
def notJson? (given : Given) (setting : Text) : Option Place :=
  [Place.environment, .file].find? fun place =>
    match given.list? place setting with
    | some none => true
    | _ => false

/-- Loads the settings. -/
def ofGiven (given : Given) : Except LoadError Settings := do
  if let some place := notJson? given "escape_code_blocks" then
    .error (.notJson "escape_code_blocks" place)
  let standard : Settings := {}
  let priority := Field.ofText given "default_priority" readInteger
  let policy := Field.ofText given "unprocessed_policy" readPolicy
  let enabled := Field.ofText given "ai_enabled" readTruth
  let models := Field.ofList given "ai_models"
  let timeout := Field.ofText given "ai_timeout" readFloat
  let languages := Field.ofList given "escape_code_blocks"
  let complaints := priority.complaints ++ policy.complaints ++ enabled.complaints ++
    models.complaints ++ timeout.complaints ++ languages.complaints
  if complaints ≠ [] then .error (.unsuited complaints)
  let text (setting : Text) (otherwise : Text) : Text := (given.text? setting).getD otherwise
  .ok
    { sectionDelimiter := text "section_delimiter" standard.sectionDelimiter
      defaultPriority := priority.value.getD standard.defaultPriority
      unprocessedPolicy := policy.value.getD standard.unprocessedPolicy
      aiEnabled := enabled.value.getD standard.aiEnabled
      aiApiKey := given.key?
      aiModel := text "ai_model" standard.aiModel
      aiModels := models.value
      aiRoute := given.text? "ai_route"
      aiTimeout := (timeout.value.map .float).getD standard.aiTimeout
      aiSiteUrl := text "ai_site_url" standard.aiSiteUrl
      aiDefaultPrompt := text "ai_default_prompt" standard.aiDefaultPrompt
      escapeCodeBlocks := languages.value.getD standard.escapeCodeBlocks
      listingStyle := text "pygments_style" standard.listingStyle
      inputPattern := text "input_pattern" standard.inputPattern }

/-- The names of all settings. -/
def names : List Text :=
  ["section_delimiter", "default_priority", "unprocessed_policy", "ai_enabled", "ai_api_key",
    "ai_model", "ai_models", "ai_route", "ai_timeout", "ai_site_url", "ai_default_prompt",
    "escape_code_blocks", "pygments_style", "input_pattern"]

/-- The names of the variables that settings are read from, as they are usually written. -/
def variableNames : List Text :=
  names.map (fun name => Text.upper (Given.front ++ name)) ++ [Text.upper Given.usualKey]

/-- Loads the settings from the variables around and from the text of a file of variables. -/
def load (environment : List (Text × Text)) (file : Text) : Except LoadError Settings :=
  let around : Variables := environment.map fun (name, value) => (name, some value)
  ofGiven ⟨around.lowered, (Variables.ofText around file).lowered⟩

end PageDirectives.Settings
