import PageDirectives.Site.Glob
import PageDirectives.Site.State
import PageDirectives.Transform
/-!
The stages of a run. Each adds to what is known or stops the run: with a line for the user, or with
a cause that it does not deal with. Only the last stage but one changes files other than by creating
the output directory, and it runs only if no stage before it stopped.
-/
namespace PageDirectives

/-- Why a run stops where it has no line for the user. -/
inductive Breakdown
  | pattern (e : GlobError)
  | noOutput
  | noTarget
  | file (e : FileError)
  | header (e : Yaml.YamlError)
  | transform (e : TransformError)

/-- The wording of a breakdown. -/
def Breakdown.message : Breakdown → Text
  | pattern e => e.message
  | noOutput => "'NoneType' object has no attribute 'mkdir'"
  | noTarget => "unsupported operand type(s) for /: 'NoneType' and 'PosixPath'"
  | file e => e.message
  | header e => e.message
  | transform e => e.message

/-- How a run stops. -/
inductive Halt
  | reported (line : Text)
  | broken (cause : Breakdown)

/-- What a run works with besides its state: the settings, the transport for completions, and the
highlighter of each style. -/
structure Equipment where
  settings : Settings
  transport : Transport
  highlighters : Text → Highlighter

/-- What a stage leaves. -/
structure StageOutcome where
  state : Except Halt SiteState
  files : Files
  journal : Journal

/-- A stage of a run. -/
abbrev Stage := Equipment → Files → SiteState → StageOutcome

namespace Stage

/-- A progress line that belongs to no document. -/
def progress (level : Int) (message : Text) : Journal.Line := ⟨none, .progress level message⟩

/-- A count of things in a sentence. -/
def counted (before : Text) (n : Nat) (behind : Text) : Text :=
  before ++ Integer.digitsOf n ++ behind

/-- The title of the program. -/
def title : Text :=
  "\n  _                         _                     _\n" ++
  " | | __ _ _   _  ___  _   _| |_ ___ _   _ _ __ | |_ __ ___  __\n" ++
  " | |/ _` | | | |/ _ \\| | | | __/ __| | | | '_ \\| __/ _` \\ \\/ /\n" ++
  " | | (_| | |_| | (_) | |_| | |_\\__ \\ |_| | | | | || (_| |>  <\n" ++
  " |_|\\__,_|\\__, |\\___/ \\__,_|\\__|___/\\__, |_| |_|\\__\\__,_/_/\\_\\\n" ++
  "          |___/                     |___/\n\n" ++
  "  Markdown layout directive preprocessor\n"

/-- Finds the sources and creates the output directory. -/
def check : Stage := fun equipment files state =>
  let opening := [progress 2 title, progress 2 "Checking environment..."]
  let stop (halt : Halt) (journal : Journal) : StageOutcome := ⟨.error halt, files, journal⟩
  match state.input with
  | none => stop (.reported "Error: Input directory not found: None") opening
  | some input =>
    if !files.isDirectory input then
      stop (.reported ("Error: Input directory not found: " ++ input.write)) opening
    else
      let pattern := Text.orElse (some state.choices.pattern) equipment.settings.inputPattern
      match Glob.ofText pattern with
      | .error e => stop (.broken (.pattern e)) opening
      | .ok glob =>
        match glob.filesIn files input with
        | [] =>
          stop (.reported ("Error: No files match '" ++ pattern ++ "' in " ++ input.write)) opening
        | sources =>
          let found := opening ++ [progress 2 (counted "Found " sources.length " source file(s)")]
          match state.output with
          | none => stop (.broken .noOutput) found
          | some output =>
            match files.createDirectory output with
            | (.error e, files) => ⟨.error (.broken (.file e)), files, found⟩
            | (.ok (), files) =>
              ⟨.ok { state with sources, checked := true }, files,
                found ++ [progress 2 ("Output directory: " ++ output.write)]⟩

/-- Reads one source: its document and the line about it, or why the run stops. -/
def readSource (files : Files) (input : Path) (path : Path) :
    Except Halt (Document × Journal.Line) := do
  let text ← match files.read path with
    | .ok text => .ok text
    | .error e => .error (.reported ("Error reading " ++ path.write ++ ": " ++ e.message))
  let source ← match Source.ofText text with
    | .ok source => .ok source
    | .error (.yaml .malformed) =>
      .error (.reported ("Error in " ++ path.write ++ ": " ++ Yaml.YamlError.malformed.message))
    | .error (.yaml e) => .error (.broken (.header e))
    | .error e => .error (.reported ("Error in " ++ path.write ++ ": " ++ e.message))
  let place : Path := ⟨false, path.names.drop input.names.length⟩
  .ok (⟨path, place, source⟩,
    progress 3 (counted "Read " text.length (" characters from " ++ path.name)))

/-- Reads sources one after the other up to the first that stops the run. -/
def readSources (files : Files) (input : Path) : List Path → Except Halt (List Document) × Journal
  | [] => (.ok [], [])
  | path :: rest =>
    match readSource files input path with
    | .error halt => (.error halt, [])
    | .ok (document, line) =>
      let (documents, journal) := readSources files input rest
      (documents.map (document :: ·), line :: journal)

/-- Reads the sources and takes their headers off. -/
def read : Stage := fun _ files state =>
  let opening := progress 1 "Reading source files..."
  let (documents, journal) := readSources files (state.input.getD ⟨false, []⟩) state.sources
  match documents with
  | .error halt => ⟨.error halt, files, opening :: journal⟩
  | .ok documents =>
    ⟨.ok { state with documents := some documents }, files,
      opening :: journal ++ [progress 2 (counted "Read " documents.length " document(s)")]⟩

/-- Transforms documents one after the other up to the first that breaks down. What was asked of
the completion service is kept from one to the next. -/
def transformAll (engine : Engine) (resolver : Resolver) (languages : List Text) (past : Dialogue) :
    List Document → Except Halt (List Result) × Journal
  | [] => (.ok [], [])
  | document :: rest =>
    let done := PageDirectives.transform engine resolver past document.source.fields
      document.source.body true languages
    let journal := Journal.of (some document.place.write) done.notes
    match done.text with
    | .error e => (.error (.broken (.transform e)), journal)
    | .ok text =>
      let (results, more) := transformAll engine resolver languages done.dialogue rest
      (results.map (⟨document, text, Directive.leftovers text⟩ :: ·), journal ++ more)

/-- Transforms the documents. -/
def transform : Stage := fun equipment files state =>
  let settings := equipment.settings
  let opening := [progress 1 "Transforming documents..."]
  let stop (halt : Halt) (journal : Journal) : StageOutcome := ⟨.error halt, files, journal⟩
  let engine := Engine.withCatalogue equipment.highlighters state.choices.policy
    state.choices.delimiter settings
  match state.documents, engine with
  | none, _ => stop (.reported "Error: No documents available") opening
  | some _, .error e => stop (.reported ("Configuration error: " ++ e.message)) opening
  | some documents, .ok engine =>
    let service := if state.choices.withoutCompletions then Service.disabled
      else Service.ofSettings settings equipment.transport
    let opening := if service.enabled then opening
      else opening ++ [progress 2 "AI completions disabled"]
    let resolver := Resolver.make service .null none settings
    let (results, journal) :=
      transformAll engine resolver settings.escapeCodeBlocks {} documents
    match results with
    | .error halt => stop halt (opening ++ journal)
    | .ok results =>
      ⟨.ok { state with results := some results }, files, opening ++ journal ++
        [progress 2 (counted "Transformed " results.length " document(s)")]⟩

/-- Writes results one after the other up to the first that cannot be written: the paths written,
the files, and a line about each. -/
def writeAll (output : Path) (files : Files) :
    List Result → Except Halt (List Path) × Files × Journal
  | [] => (.ok [], files, [])
  | result :: rest =>
    let target := output.below result.document.place.names
    let text := Headed.join result.document.source.raw result.text
    let (created, prepared) := files.createDirectory target.parent
    match created.bind fun () => prepared.write target text with
    | .error e =>
      (.error (.reported ("Error writing " ++ target.write ++ ": " ++ e.message)), prepared, [])
    | .ok files =>
      let (targets, files, journal) := writeAll output files rest
      (targets.map (target :: ·), files, progress 3 ("Wrote " ++ target.write) :: journal)

/-- The leftovers of results that have any, by place. -/
def leftoversOf (results : List Result) : List (Text × List Text) :=
  (results.filter fun r => !r.leftovers.isEmpty).map fun r => (r.document.place.write, r.leftovers)

/-- Writes the results with their headers put back. -/
def write : Stage := fun _ files state =>
  match state.results, state.output with
  | none, _ => ⟨.error (.reported "Error: Nothing to write"), files, []⟩
  | some [], _ => ⟨.ok { state with summary := some ⟨[], 0, []⟩ }, files, []⟩
  | some _, none => ⟨.error (.broken .noTarget), files, []⟩
  | some results, some output =>
    let (targets, files, journal) := writeAll output files results
    match targets with
    | .error halt => ⟨.error halt, files, journal⟩
    | .ok targets =>
      let summary : Summary :=
        ⟨targets.map Path.write, (targets.length : Nat), leftoversOf results⟩
      ⟨.ok { state with summary := some summary }, files, journal⟩

/-- The line about the leftovers of one document. -/
def leftoverLine (place : Text) (names : List Text) : Journal.Line :=
  progress 1 ("  Unprocessed in " ++ place ++ ": " ++
    Text.join ", " (names.map fun name => "::" ++ name))

/-- Says what was done. -/
def report : Stage := fun _ files state =>
  match state.summary with
  | none => ⟨.error (.reported "Error: Transformation failed"), files, []⟩
  | some summary =>
    ⟨.ok state, files,
      [progress 1 "\n✓ Transformation successful!",
        progress 1 ("  Output: " ++ SiteState.shown state.output),
        progress 1 ("  Files:  " ++ Integer.decimal summary.written)] ++
      summary.leftovers.map fun (place, names) => leftoverLine place names⟩

/-- The stages in their order. -/
def all : List Stage := [check, read, transform, write, report]

/-- Runs stages one after the other up to the first that stops. -/
def runAll (equipment : Equipment) : List Stage → Files → SiteState → StageOutcome
  | [], files, state => ⟨.ok state, files, []⟩
  | stage :: rest, files, state =>
    let first := stage equipment files state
    match first.state with
    | .error _ => first
    | .ok state =>
      let more := runAll equipment rest first.files state
      { more with journal := first.journal ++ more.journal }

end Stage

/-- Transforms the documents of a site: from an input directory to an output directory. -/
def runSite (equipment : Equipment) (choices : Choices) (input output : Path) (files : Files) :
    StageOutcome :=
  Stage.runAll equipment Stage.all files { choices, input := some input, output := some output }

end PageDirectives
