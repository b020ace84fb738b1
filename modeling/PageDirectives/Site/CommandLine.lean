import PageDirectives.Text.Digit
/-!
The choices for a run, as arguments. A long option may be cut short as long as no other one begins
alike, and may have its value behind an equals sign; options of one letter may be joined. The last
value counts, and every mention of verbosity adds one.
-/
namespace PageDirectives

/-- The choices for a run. -/
structure Choices where
  /-- The pattern that selects sources. -/
  pattern : Text := "**/*.md"
  /-- Whether completions are switched off. -/
  withoutCompletions : Bool := false
  /-- What happens to directives that nobody claims; by default as the settings say. -/
  policy : Option Text := none
  /-- The line between sections; by default as the settings say. -/
  delimiter : Option Text := none
  verbosity : Int := 1
  deriving Repr, DecidableEq

/-- What arguments ask for: a run, with the arguments that are no options, a text about the program,
or nothing that makes sense. -/
inductive Asked
  | run (choices : Choices) (others : List Text)
  | information
  | refused
  deriving Repr, DecidableEq

namespace CommandLine

/-- What an option is about. -/
inductive Subject
  | help
  | pattern
  | withoutCompletions
  | policy
  | delimiter
  | verbosity
  | version
  deriving Repr, DecidableEq

/-- The names of options. -/
def optionNames : List (Text × Subject) :=
  [("-h", .help), ("--help", .help), ("--pattern", .pattern), ("--noAI", .withoutCompletions),
    ("--unprocessedPolicy", .policy), ("--delimiter", .delimiter), ("-v", .verbosity),
    ("--verbosity", .verbosity), ("-V", .version), ("--version", .version)]

/-- Whether an option has a value. -/
def Subject.hasValue : Subject → Bool
  | .pattern | .policy | .delimiter => true
  | _ => false

/-- What an argument has behind the name of an option: nothing, a text behind an equals sign, or
letters right behind a name of one letter. -/
inductive Attached
  | nothing
  | value (text : Text)
  | letters (text : Text)
  deriving Repr, DecidableEq

/-- What an argument looks like before its neighbours are known. -/
inductive Shape
  | plain
  | divider
  | unknown
  | option (subject : Subject) (attached : Attached)
  deriving Repr, DecidableEq

/-- Whether a name is one letter behind a single hyphen. -/
def isShort (name : Text) : Bool := name[1]? != some '-'

/-- An argument before its first equals sign, and what is attached behind it. -/
def cutAtEquals (argument : Text) : Text × Attached :=
  match Text.cut? ['='] argument with
  | some (before, behind) => (before, .value behind)
  | none => (argument, .nothing)

/-- The options that an argument can mean that is no full name. -/
def meanings (argument : Text) : List Shape :=
  if isShort argument then
    optionNames.filterMap fun (name, subject) =>
      if name = argument.take 2 then some (.option subject (.letters (argument.drop 2)))
      else if Text.startsWith name argument then some (.option subject .nothing)
      else none
  else
    let (front, attached) := cutAtEquals argument
    (optionNames.filter fun named => Text.startsWith named.1 front).map fun named =>
      .option named.2 attached

/-- Whether an argument is a number below zero. -/
def isNegativeNumber (argument : Text) : Bool :=
  match argument with
  | '-' :: body =>
    let body := if body.getLast? = some '\n' then body.dropLast else body
    let whole := body.takeWhile Text.isDigit
    match body.drop whole.length with
    | [] => !whole.isEmpty
    | '.' :: fraction => !fraction.isEmpty && fraction.all Text.isDigit
    | _ => false
  | _ => false

/-- The option with a full name in front of an equals sign, if the argument is of this form. -/
def assignment? (argument : Text) : Option Shape :=
  match cutAtEquals argument with
  | (_, .nothing) => none
  | (front, attached) => (optionNames.lookup front).map fun subject => .option subject attached

/-- The shape of an argument, unless it can mean more than one option. -/
def shape? (argument : Text) : Option Shape :=
  if argument.head? ≠ some '-' ∨ argument = ['-'] then some .plain
  else
    match optionNames.lookup argument, assignment? argument, meanings argument with
    | some subject, _, _ => some (.option subject .nothing)
    | none, some shape, _ => some shape
    | none, none, [shape] => some shape
    | none, none, _ :: _ :: _ => none
    | none, none, [] =>
      some (if isNegativeNumber argument ∨ ' ' ∈ argument then .plain else .unknown)

/-- The shapes of arguments. Behind a divider all are plain. -/
def shapes? : List Text → Option (List (Text × Shape))
  | [] => some []
  | argument :: rest =>
    if argument = ['-', '-'] then
      some ((argument, .divider) :: rest.map fun other => (other, .plain))
    else do
      let shape ← shape? argument
      some ((argument, shape) :: (← shapes? rest))

/-- The options that letters behind a first one stand for, and whether one that is not known ended
them. A hyphen or an equals sign must not stand among them. -/
def joined? : Text → Option (List Subject × Bool)
  | [] => some ([], false)
  | c :: letters =>
    match c, optionNames.lookup ['-', c], letters with
    | '-', _, _ => none
    | _, none, _ => some ([], true)
    | _, some _, '=' :: _ => none
    | _, some subject, _ =>
      (joined? letters).map fun (subjects, odd) => (subject :: subjects, odd)

/-- The options that what is attached to one without a value stands for. -/
def Attached.options? : Attached → Option (List Subject × Bool)
  | nothing => some ([], false)
  | value _ => none
  | letters text => joined? text

/-- Choices with one value set, unless the value is not allowed. -/
def set? (choices : Choices) (subject : Subject) (value : Text) : Option Choices :=
  match subject with
  | .pattern => some { choices with pattern := value }
  | .delimiter => some { choices with delimiter := some value }
  | .policy =>
    if value = "warn" ∨ value = "strip" then some { choices with policy := some value } else none
  | _ => some choices

/-- Choices after options without values; none if they ask for information. -/
def switch? (choices : Choices) : List Subject → Option Choices
  | [] => some choices
  | subject :: rest =>
    match subject with
    | .verbosity => switch? { choices with verbosity := choices.verbosity + 1 } rest
    | .withoutCompletions => switch? { choices with withoutCompletions := true } rest
    | .help | .version => none
    | _ => switch? choices rest

/-- Takes arguments in from the left. Plain arguments that are no values are collected; an option
that is not known makes the whole refused, but only at the end. -/
def takeIn (choices : Choices) (others : List Text) (odd : Bool) :
    (fuel : Nat) → List (Text × Shape) → Asked
  | 0, _ => .refused
  | _, [] => if odd then .refused else .run choices others
  | fuel + 1, (argument, shape) :: rest =>
    match shape with
    | .plain => takeIn choices (others ++ [argument]) odd fuel rest
    | .divider | .unknown => takeIn choices others true fuel rest
    | .option subject attached =>
      match subject.hasValue, attached, rest with
      | true, .value value, _ =>
        match set? choices subject value with
        | some choices => takeIn choices others odd fuel rest
        | none => .refused
      | true, .nothing, (value, .plain) :: rest =>
        match set? choices subject value with
        | some choices => takeIn choices others odd fuel rest
        | none => .refused
      | true, _, _ => .refused
      | false, attached, _ =>
        match attached.options? with
        | none => .refused
        | some (further, ended) =>
          match switch? choices (subject :: further) with
          | none => .information
          | some choices => takeIn choices others (odd || ended) fuel rest

end CommandLine

namespace Asked

/-- What arguments ask for, with the plain ones among them. -/
def ofArguments (arguments : List Text) : Asked :=
  match CommandLine.shapes? arguments with
  | none => .refused
  | some shapes => CommandLine.takeIn {} [] false (shapes.length + 1) shapes

/-- What arguments ask for that are options and their values only. -/
def ofOptions (arguments : List Text) : Asked :=
  match ofArguments arguments with
  | .run _ (_ :: _) => .refused
  | asked => asked

end Asked
end PageDirectives
