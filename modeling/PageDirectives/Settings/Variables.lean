import PageDirectives.Text.Blank
import PageDirectives.Text.Case
/-!
Variables from files of lines `name=value`. A value may be quoted and then run over several lines;
without quotes it ends before a comment. A value may name variables in braces behind a dollar sign,
with a text for those that are not set. What is not of this form is passed over to the end of its
line.
-/
namespace PageDirectives

/-- Variables by name, in the order in which the names came up; some names have no value. -/
abbrev Variables := List (Text × Option Text)

namespace Variables

/-- Sets a variable. A name that is there keeps its place. -/
def put (name : Text) (value : Option Text) : Variables → Variables
  | [] => [(name, value)]
  | (other, v) :: rest =>
    if other = name then (other, value) :: rest else (other, v) :: put name value rest

/-- The value of a variable, if it is set to one. -/
def get? (name : Text) (known : Variables) : Option Text := (known.lookup name).join

/-- Variables with their names in lower case, later ones taking the place of earlier ones. -/
def lowered (known : Variables) : Variables :=
  known.foldl (fun found (name, value) => found.put (Text.lower name) value) []

/-- Whether a character is white space inside a line. -/
def isGap (c : Char) : Bool := Text.isBlank c && c != '\n' && c != '\r'

/-- Whether a character ends a line. -/
def isLineEnd (c : Char) : Bool := c == '\n' || c == '\r'

/-- What follows the rest of a line and its end. -/
def nextLine (text : Text) : Text :=
  let rest := text.dropWhile (!isLineEnd ·)
  rest.drop 1

/-- Whether a character can stand in a name without quotes. -/
def isNameChar (c : Char) : Bool := c != '=' && c != '#' && !Text.isBlank c

/-- Reads a name, none in front of a comment. On failure, says where reading stopped. -/
def name (text : Text) : Except Text (Option Text × Text) :=
  match text with
  | '#' :: _ => .ok (none, text)
  | '\'' :: rest =>
    let word := rest.takeWhile (· != '\'')
    match word, rest.drop word.length with
    | _ :: _, '\'' :: rest => .ok (some word, rest)
    | _, _ => .error text
  | _ =>
    match text.takeWhile isNameChar with
    | [] => .error text
    | word => .ok (some word, text.drop word.length)

/-- The part of a text before the first quote that has no backslash before it, and what follows. The
flag tells whether there is a backslash before the front. -/
def cutAtQuote? (quote : Char) (escaped : Bool) : Text → Option (Text × Text)
  | [] => none
  | c :: text =>
    if c = quote ∧ ¬ escaped then some ([], text)
    else (cutAtQuote? quote (c == '\\') text).map fun (before, behind) => (c :: before, behind)

/-- The part of a text before its last quote, and what follows. -/
def cutAtLastQuote? (quote : Char) : Text → Option (Text × Text)
  | [] => none
  | c :: text =>
    match cutAtLastQuote? quote text with
    | some (before, behind) => some (c :: before, behind)
    | none => if c = quote then some ([], text) else none

/-- What stands in quotes at the front of a text, behind the first one. If every further quote has a
backslash before it, the last one closes. -/
def quoted? (quote : Char) (text : Text) : Option (Text × Text) :=
  (cutAtQuote? quote false text).orElse fun _ => cutAtLastQuote? quote text

/-- The escapes that count in single quotes. -/
def singleEscapes : List (Char × Char) := [('\\', '\\'), ('\'', '\'')]

/-- The escapes that count in double quotes. -/
def doubleEscapes : List (Char × Char) :=
  [('\\', '\\'), ('\'', '\''), ('"', '"'), ('a', '\u0007'), ('b', '\u0008'), ('f', '\u000c'),
    ('n', '\n'), ('r', '\r'), ('t', '\t'), ('v', '\u000b')]

/-- A text with its escapes exchanged for what they stand for. -/
def unescape (escapes : List (Char × Char)) : Text → Text
  | '\\' :: c :: text =>
    match escapes.lookup c with
    | some d => d :: unescape escapes text
    | none => '\\' :: unescape escapes (c :: text)
  | c :: text => c :: unescape escapes text
  | [] => []

/-- A text up to the first white space in front of a number sign. -/
def beforeComment : Text → Text
  | [] => []
  | c :: text =>
    if Text.isBlank c && (text.dropWhile Text.isBlank).head? == some '#' then []
    else c :: beforeComment text

/-- Reads a value. On failure, says where reading stopped. -/
def value (text : Text) : Except Text (Text × Text) :=
  match text with
  | '\'' :: rest =>
    match quoted? '\'' rest with
    | some (word, rest) => .ok (unescape singleEscapes word, rest)
    | none => .error text
  | '"' :: rest =>
    match quoted? '"' rest with
    | some (word, rest) => .ok (unescape doubleEscapes word, rest)
    | none => .error text
  | _ =>
    let line := text.takeWhile (!isLineEnd ·)
    .ok (Text.trimEnd (beforeComment line), text.drop line.length)

/-- What follows a comment, if there is one. -/
def skipComment (text : Text) : Text :=
  match text.dropWhile isGap with
  | '#' :: rest => rest.dropWhile (!isLineEnd ·)
  | _ => text

/-- What follows the end of a line, which has to come next. -/
def lineEnd (text : Text) : Except Text Text :=
  match text.dropWhile isGap with
  | [] => .ok []
  | '\r' :: '\n' :: rest => .ok rest
  | c :: rest => if isLineEnd c then .ok rest else .error text

/-- What follows the word that marks a variable for export, if it is there. -/
def skipExport (text : Text) : Text :=
  match Text.after? "export" text with
  | some (c :: rest) => if isGap c then rest.dropWhile isGap else text
  | _ => text

/-- Reads one line, or several if a value runs over them: a variable, or none in a comment. -/
def binding (text : Text) : Except Text (Option (Text × Option Text) × Text) := do
  let (name, rest) ← name (skipExport text)
  let rest := rest.dropWhile isGap
  let (value, rest) ← match rest with
    | '=' :: rest => (value (rest.dropWhile isGap)).map fun (v, rest) => (some v, rest)
    | _ => .ok (none, rest)
  let rest ← lineEnd (skipComment rest)
  .ok (name.map fun name => (name, value), rest)

/-- The variables of a text as they are written. -/
def written : (fuel : Nat) → Text → Variables
  | 0, _ => []
  | fuel + 1, text =>
    match Text.trimStart text with
    | [] => []
    | text =>
      match binding text with
      | .ok (some found, rest) => found :: written fuel rest
      | .ok (none, rest) => written fuel rest
      | .error rest => written fuel (nextLine rest)

/-- A reference to a variable behind its dollar sign and brace: its name, the text for the case that
it is not set, and what follows the closing brace. -/
def reference? (text : Text) : Option (Text × Text × Text) :=
  let name := text.takeWhile fun c => c != '\x7d' && c != ':'
  match text.drop name.length with
  | '\x7d' :: rest => some (name, [], rest)
  | ':' :: '-' :: rest =>
    let otherwise := rest.takeWhile (· != '\x7d')
    match rest.drop otherwise.length with
    | '\x7d' :: rest => some (name, otherwise, rest)
    | _ => none
  | _ => none

/-- A value with the variables that it names filled in. A variable without a value is empty. -/
def expand (known : Variables) : (fuel : Nat) → Text → Text
  | 0, text => text
  | _, [] => []
  | fuel + 1, c :: text =>
    match c, text with
    | '$', '\x7b' :: rest =>
      match reference? rest with
      | some (name, otherwise, rest) =>
        (match known.lookup name with
          | some v => v.getD []
          | none => otherwise) ++ expand known fuel rest
      | none => c :: expand known fuel text
    | _, _ => c :: expand known fuel text

/-- The variables of a file, each value seeing the variables before it and those around it. -/
def ofText (around : Variables) (text : Text) : Variables :=
  (written (text.length + 1) text).foldl (fun found (name, value) =>
    let known := found ++ around
    found.put name (value.map fun v => expand known (v.length + 1) v)) []

end Variables
end PageDirectives
