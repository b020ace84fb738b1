import PageDirectives.Number.Integer
import PageDirectives.Yaml.Cursor
import PageDirectives.Yaml.Error
/-!
Quoted scalars. In single quotes, a quote is written twice and nothing else is special; in double
quotes, a backslash begins an escape. Line breaks inside are folded, and a line that separates
documents must not begin inside.
-/
namespace PageDirectives.Yaml.Quoted

/-- The quote that a scalar stands in. -/
inductive Quote
  | single
  | double
  deriving Repr, DecidableEq

/-- The number that so many hexadecimal digits in front of a text write, and what follows them. -/
def hexNumber? (count : Nat) (text : Text) : Option (Nat × Text) :=
  let digits := (text.take count).filterMap Integer.hexDigit?
  if digits.length = count then some (digits.foldl (fun n d => 16 * n + d) 0, text.drop count)
  else none

/-- The character with a number. A number that no character has is an error. -/
def characterOf (code : Nat) : Except YamlError Char :=
  if code < 0x110000 then
    .ok (if code.isValidChar then Char.ofNat code else '\ufffd')
  else .error (.noCharacter code)

/-- The characters that an escape of one letter stands for. -/
def letters : List (Char × Nat) :=
  [('0', 0), ('a', 7), ('b', 8), ('t', 9), ('\t', 9), ('n', 10), ('v', 11), ('f', 12), ('r', 13),
    ('e', 27), (' ', 32), ('"', 34), ('\\', 92), ('/', 47), ('N', 0x85), ('_', 0xa0),
    ('L', 0x2028), ('P', 0x2029)]

/-- The number of digits of an escape that writes a character by its number. -/
def digitsOf? : Char → Option Nat
  | 'x' => some 2
  | 'u' => some 4
  | 'U' => some 8
  | _ => none

/-- The empty lines behind a line break, and where the text goes on. -/
def emptyLines : (fuel : Nat) → Text → Except YamlError (Text × Text)
  | 0, _ => .error .malformed
  | fuel + 1, text =>
    if isSeparator text then .error .malformed
    else
      let text := text.dropWhile isSpace
      match lineBreak? text with
      | none => .ok ([], text)
      | some (mark, text) => do
        let (further, text) ← emptyLines fuel text
        .ok (mark :: further, text)

/-- What the escape behind a backslash stands for. -/
def escape (text : Text) : Except YamlError (Text × Text) :=
  match text, lineBreak? text with
  | _, some (_, rest) => emptyLines (rest.length + 1) rest
  | [], none => .error .malformed
  | c :: rest, none =>
    match letters.lookup c, digitsOf? c with
    | some code, _ => .ok ([Char.ofNat code], rest)
    | none, none => .error .malformed
    | none, some count =>
      match hexNumber? count rest with
      | none => .error .malformed
      | some (code, rest) => (characterOf code).map fun d => ([d], rest)

/-- What a gap stands for: its spaces, or its line breaks folded. -/
def gap (text : Text) : Except YamlError (Text × Text) :=
  let spaces := text.takeWhile isSpace
  let text := text.drop spaces.length
  match lineBreak? text with
  | none => .ok (spaces, text)
  | some (mark, text) => do
    let (further, text) ← emptyLines (text.length + 1) text
    .ok (fold mark further, text)

/-- Reads a scalar from behind its first quote to behind its last. -/
def body (quote : Quote) : (fuel : Nat) → Text → Except YamlError (Text × Text)
  | 0, _ => .error .malformed
  | _, [] => .error .malformed
  | fuel + 1, c :: text => do
    let (piece, rest) ←
      if isSpace c ∨ isBreak c then gap (c :: text)
      else
        match quote, c, text with
        | .single, '\'', '\'' :: rest => .ok (['\''], rest)
        | .single, '\'', rest => return ([], rest)
        | .double, '"', rest => return ([], rest)
        | .double, '\\', rest => escape rest
        | _, _, rest => .ok ([c], rest)
    let (more, rest) ← body quote fuel rest
    .ok (piece ++ more, rest)

/-- Reads a quoted scalar at a place in front of its first quote. -/
def scan (quote : Quote) (c : Cursor) : Except YamlError (Text × Cursor) := do
  let (text, rest) ← body quote (c.rest.length + 1) (c.rest.drop 1)
  .ok (text, c.upTo rest)

end PageDirectives.Yaml.Quoted
