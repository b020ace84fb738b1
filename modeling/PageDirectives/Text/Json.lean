import PageDirectives.Number.Integer
/-!
JSON texts. Numbers need not be finite; inside a string, half of a surrogate pair is allowed, but
then the string is no text.
-/
namespace PageDirectives

/-- A JSON value. Numbers are kept as they are written. -/
inductive Json
  | null
  | truth (b : Bool)
  | number (literal : Text)
  | text (s : Text)
  | unpaired
  | list (items : List Json)
  | object (members : List (Text × Json))
  deriving Repr, Inhabited

namespace Json

/-- Whether a character is white space between the parts of a JSON text. -/
def isGap (c : Char) : Bool := c == ' ' || c == '\t' || c == '\n' || c == '\r'

/-- A text without the white space at its front. -/
def skipGap (text : Text) : Text := text.dropWhile isGap

/-- The characters that an escape of one letter stands for. -/
def letters : List (Char × Nat) :=
  [('"', 34), ('\\', 92), ('/', 47), ('b', 8), ('f', 12), ('n', 10), ('r', 13), ('t', 9)]

/-- The number that four hexadecimal digits write, and what follows them. -/
def unit? (text : Text) : Option (Nat × Text) :=
  let digits := (text.take 4).filterMap Integer.hexDigit?
  if digits.length = 4 then some (digits.foldl (fun n d => 16 * n + d) 0, text.drop 4) else none

/-- Whether a number is the first half of a surrogate pair. -/
def isHighHalf (n : Nat) : Bool := 0xd800 ≤ n && n < 0xdc00

/-- Whether a number is the second half of a surrogate pair. -/
def isLowHalf (n : Nat) : Bool := 0xdc00 ≤ n && n < 0xe000

/-- The second half of a surrogate pair in front of a text, and what follows it. -/
def lowHalf? (text : Text) : Option (Nat × Text) := do
  let (n, rest) ← unit? (← Text.after? ['\\', 'u'] text)
  if isLowHalf n then some (n, rest) else none

/-- What an escape with a number stands for, none for half of a pair, and what follows it. -/
def numbered? (text : Text) : Option (Option Char × Text) := do
  let (n, rest) ← unit? text
  if isHighHalf n then
    match lowHalf? rest with
    | some (m, rest) =>
      some (some (Char.ofNat (0x10000 + (n - 0xd800) * 0x400 + (m - 0xdc00))), rest)
    | none => some (none, rest)
  else if isLowHalf n then some (none, rest)
  else some (some (Char.ofNat n), rest)

/-- Reads a string from behind its first quote. The inner result is none if it is no text. -/
def string? : (fuel : Nat) → Text → Option (Option Text × Text)
  | 0, _ => none
  | _, [] => none
  | _, '"' :: rest => some (some [], rest)
  | fuel + 1, '\\' :: 'u' :: rest => do
    let (c, rest) ← numbered? rest
    let (more, rest) ← string? fuel rest
    some ((do some ((← c) :: (← more))), rest)
  | fuel + 1, '\\' :: c :: rest => do
    let code ← letters.lookup c
    let (more, rest) ← string? fuel rest
    some (more.map (Char.ofNat code :: ·), rest)
  | fuel + 1, c :: rest => do
    if c == '\\' || c.toNat < 32 then none
    let (more, rest) ← string? fuel rest
    some (more.map (c :: ·), rest)

/-- The digits in front of a text. -/
def digitRun (text : Text) : Text := text.takeWhile Char.isDigit

/-- The digits of a whole number in front of a text; only zero begins with a zero. -/
def wholeDigits? (text : Text) : Option Text :=
  match text with
  | '0' :: _ => some ['0']
  | _ => if digitRun text = [] then none else some (digitRun text)

/-- The fraction in front of a text, or nothing. -/
def fraction (text : Text) : Text :=
  match text with
  | '.' :: rest => if digitRun rest = [] then [] else '.' :: digitRun rest
  | _ => []

/-- The exponent in front of a text, or nothing. -/
def exponent (text : Text) : Text :=
  match text with
  | e :: rest =>
    let sign := rest.takeWhile fun c => c == '-' || c == '+'
    let digits := digitRun (rest.drop sign.length)
    if (e == 'e' || e == 'E') && sign.length ≤ 1 && !digits.isEmpty then e :: sign ++ digits else []
  | [] => []

/-- Reads a number. A whole number beyond the digit limit is none. -/
def number? (text : Text) : Option (Text × Text) := do
  let sign := if text.head? = some '-' then ['-'] else []
  let whole ← wholeDigits? (text.drop sign.length)
  let behind := text.drop (sign ++ whole).length
  let tail := fraction behind
  let tail := tail ++ exponent (behind.drop tail.length)
  if tail = [] ∧ digitLimit < whole.length then none
  some (sign ++ whole ++ tail, behind.drop tail.length)

/-- The words that are values. -/
def words : List (Text × Json) :=
  [("null", null), ("true", truth true), ("false", truth false), ("NaN", number "NaN"),
    ("Infinity", number "Infinity"), ("-Infinity", number "-Infinity")]

/-- Reads a word that is a value. -/
def word? (text : Text) : Option (Json × Text) :=
  words.findSome? fun (word, j) => (Text.after? word text).map fun rest => (j, rest)

mutual

/-- Reads a value in front of a text. -/
def value? : (fuel : Nat) → Text → Option (Json × Text)
  | 0, _ => none
  | _, [] => none
  | fuel + 1, c :: rest =>
    if c = '"' then
      (string? (rest.length + 1) rest).map fun (s, rest) => ((s.map text).getD unpaired, rest)
    else if c = '[' then
      match skipGap rest with
      | ']' :: rest => some (list [], rest)
      | rest => (items? fuel rest).map fun (items, rest) => (list items, rest)
    else if c = '\x7b' then
      match skipGap rest with
      | '\x7d' :: rest => some (object [], rest)
      | rest => (members? fuel rest).map fun (members, rest) => (object members, rest)
    else
      match word? (c :: rest) with
      | some found => some found
      | none => (number? (c :: rest)).map fun (literal, rest) => (number literal, rest)

/-- Reads the items of a list up to its end. -/
def items? : (fuel : Nat) → Text → Option (List Json × Text)
  | 0, _ => none
  | fuel + 1, front => do
    let (first, rest) ← value? fuel front
    match skipGap rest with
    | ']' :: rest => some ([first], rest)
    | ',' :: rest =>
      let (more, rest) ← items? fuel (skipGap rest)
      some (first :: more, rest)
    | _ => none

/-- Reads the members of an object up to its end. -/
def members? : (fuel : Nat) → Text → Option (List (Text × Json) × Text)
  | 0, _ => none
  | fuel + 1, front => do
    let (key, rest) ← string? (front.length + 1) (← Text.after? ['"'] front)
    let (first, rest) ← value? fuel (skipGap (← Text.after? [':'] (skipGap rest)))
    let member := (key.getD [], first)
    match skipGap rest with
    | '\x7d' :: rest => some ([member], rest)
    | ',' :: rest =>
      let (more, rest) ← members? fuel (skipGap rest)
      some (member :: more, rest)
    | _ => none

end

/-- The value that a text writes. -/
def ofText? (text : Text) : Option Json := do
  let (j, rest) ← value? (text.length + 1) (skipGap text)
  if skipGap rest = [] then some j else none

end Json
end PageDirectives
