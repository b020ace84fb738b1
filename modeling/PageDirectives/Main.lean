import PageDirectives.Layout.Monokai
import PageDirectives.Settings.Load
import PageDirectives.Site.Stage
/-!
The command line: two directories and options. It takes in what both directories hold, with what
links lead to, runs the library on it, and writes what the run changed. Nothing is sent anywhere, so
every completion fails.
-/
namespace PageDirectives.CommandLine

/-- The variables of the environment that settings are read from. -/
def environment : IO (List (Text × Text)) := do
  let found ← Settings.variableNames.mapM fun name => do
    let value ← IO.getEnv (String.ofList name)
    pure (value.map fun v => (name, v.toList))
  pure (found.filterMap id)

/-- The text of a file, or nothing where it cannot be read. -/
def textOr (name : String) : IO Text := do
  try
    let text ← IO.FS.readFile name
    pure text.toList
  catch _ => pure []

/-- What the system calls a place. -/
def nameOf (place : Place) : String := String.ofList (Path.write ⟨true, place⟩)

/-- The place that the system finds under a name. -/
def placeOf (name : String) : IO Place := do
  let real ← IO.FS.realPath name
  pure (Path.ofText real.toString.toList).names

/-- Takes in what is at and below a place, and what the links there lead to. -/
partial def gather (files : Files) (place : Place) : IO Files := do
  try
    let real ← placeOf (nameOf place)
    if real ≠ place then
      -- a link is followed once, so links that lead back above themselves come to an end
      if (files.entries.lookup place).isSome then pure files
      else gather (files.put place (.link ⟨true, real⟩)) real
    else
      let path ← IO.FS.realPath (nameOf place)
      if ← path.isDir then
        let children ← path.readDir
        children.foldlM (fun files child => gather files (place ++ [child.fileName.toList]))
          (files.put place .directory)
      else
        let bytes ← IO.FS.readBinFile path
        pure (files.put place (.file (Utf8.decode bytes.toList)))
  catch _ => pure files

/-- Takes in what names lead to from a place, with the directories and links on the way, and the
place itself. -/
def reach (files : Files) (place : Place) : List Text → IO (Files × Place)
  | [] => do pure (← gather files place, place)
  | name :: names => do
    if name = ['.', '.'] then reach files place.dropLast names
    else
      let next := place ++ [name]
      let real ← try placeOf (nameOf next) catch _ => pure next
      let files := files.put place .directory
      reach (if real = next then files else files.put next (.link ⟨true, real⟩)) real names

/-- Takes in what a path leads to, and what it leads to a number of levels up. -/
def reachPath (files : Files) (path : Path) (levels : Nat) : IO Files := do
  let (files, place) ← reach files (if path.absolute then [] else files.present) path.names
  if levels = 0 then pure files else gather files (place.take (place.length - levels))

/-- Writes the entries of a tree that an earlier tree does not hold alike. -/
def store (before after : Files) : IO Unit := do
  for place in (after.entries.map (·.1)).reverse.eraseDups do
    match after.nodeAt? place with
    | some .directory => if !before.hasDirectory place then IO.FS.createDirAll (nameOf place)
    | some (.file (.ok text)) =>
      match before.contentAt? place with
      | some (.ok old) =>
        if old != text then IO.FS.writeFile (nameOf place) (String.ofList text)
      | _ => IO.FS.writeFile (nameOf place) (String.ofList text)
    | _ => pure ()

/-- The line of a journal as it is shown. -/
def shownLine (line : Journal.Line) : String :=
  let severity := match line.note.severity with
    | .debug => "DEBUG"
    | .warning => "WARNING"
    | .error => "ERROR"
  severity ++ " | " ++ String.ofList (line.document.getD ['-']) ++ " | " ++
    String.ofList line.note.message

/-- Runs a site and shows what it has to say. -/
def perform (settings : Settings) (choices : Choices) (input output : Text) : IO UInt32 := do
  let source := Path.ofText input
  let target := Path.ofText output
  let pattern := Text.orElse (some choices.pattern) settings.inputPattern
  let levels := (Path.namesOf pattern).count ['.', '.']
  let files ← reachPath ⟨← placeOf ".", []⟩ source levels
  let files ← reachPath files target 0
  let transport : Transport := fun _ => .failed (.reported (.text "No connection"))
  let done := runSite ⟨settings, transport, Highlighter.ofStyle⟩ choices source target files
  for line in done.journal.shown choices.verbosity do
    IO.eprintln (shownLine line)
  store files done.files
  match done.state with
  | .ok _ => pure 0
  | .error (.reported line) =>
    IO.eprintln (String.ofList line)
    pure 1
  | .error (.broken cause) =>
    IO.eprintln (String.ofList cause.message)
    pure 1

/-- How the program is called. -/
def usage : String :=
  "inputdir outputdir [--pattern PATTERN] [--noAI] [--unprocessedPolicy warn|strip] " ++
    "[--delimiter LINE] [-v] [-V]"

/-- Does what arguments ask for. -/
def start (arguments : List Text) : IO UInt32 := do
  match Settings.load (← environment) (← textOr ".env"), Asked.ofArguments arguments with
  | .error e, _ =>
    IO.eprintln (String.ofList e.message)
    pure 1
  | .ok settings, .run choices [input, output] => perform settings choices input output
  | .ok _, .information =>
    IO.println usage
    pure 0
  | .ok _, _ =>
    IO.eprintln usage
    pure 2

end PageDirectives.CommandLine

/-- Transforms the documents of one directory into another. -/
def main (arguments : List String) : IO UInt32 :=
  PageDirectives.CommandLine.start (arguments.map String.toList)
