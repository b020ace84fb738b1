import PageDirectives.Number.Decimal
/-!
Settings written as texts: truth values, whole numbers and floats. Single low lines may separate
digits; a whole number may have zeros before it and, behind a point, zeros after it.
-/
namespace PageDirectives.Settings

/-- What is wrong with the value of a setting. -/
inductive Complaint
  | notATruth
  | notAnInteger
  | integerTooLong
  | notAFloat
  | notAChoice
  | notAList
  | itemNotAText
  | itemNotUnicode
  deriving Repr, DecidableEq

/-- The words for true. -/
def yesWords : List Text := ["1", "t", "y", "on", "yes", "true"]

/-- The words for false. -/
def noWords : List Text := ["0", "f", "n", "no", "off", "false"]

/-- Reads a truth value. -/
def readTruth (text : Text) : Except Complaint Bool :=
  let word := text.map Char.toLower
  if word ∈ yesWords then .ok true
  else if word ∈ noWords then .ok false
  else .error .notATruth

/-- A text without low lines that stand singly inside it, if it has only such ones. -/
def withoutLines? (text : Text) : Option Text :=
  if text.head? = some '_' ∨ text.getLast? = some '_' ∨ '_' ∉ text ∨
    Text.contains text ['_', '_'] then none
  else some (text.filter (· != '_'))

/-- A text without the zeros in front of a number; the last one stays if there is no other digit
before the point. -/
def withoutZeros? (text : Text) : Option Text :=
  match text with
  | [] => none
  | c :: _ =>
    if c = '0' then
      let zeros := text.takeWhile fun c => c == '0' || c == '_'
      match text.drop zeros.length with
      | [] => some (text.drop (text.length - 1))
      | '.' :: _ => some (text.drop (zeros.length - 1))
      | d :: rest => if d.isDigit then some (d :: rest) else none
    else if c.isDigit ∨ c = '-' then some text
    else none

/-- A text without a point that only zeros follow. -/
def withoutFraction (text : Text) : Text :=
  let whole := text.takeWhile (· != '.')
  if (text.drop (whole.length + 1)).all (· == '0') then whole else text

/-- A text in the plain form of a whole number: without blanks, plus sign, zeros, low lines. -/
def plainInteger? (text : Text) : Option Text := do
  let text := Integer.trimmed text
  let text ← match text with
    | '+' :: '-' :: _ => none
    | '+' :: rest => some rest
    | text => some text
  let text := withoutFraction (← withoutZeros? text)
  some ((withoutLines? text).getD text)

/-- Reads a whole number in its plain form: digits behind an optional hyphen, with no zero in front
of another digit. -/
def readPlainInteger (text : Text) : Except Complaint Int :=
  let negative := text.head? = some '-'
  let digits := if negative then text.drop 1 else text
  if digits = [] ∨ ¬ digits.all Char.isDigit ∨ (digits.head? = some '0' ∧ 1 < digits.length) then
    .error .notAnInteger
  else if digitLimit < digits.length then .error .integerTooLong
  else .ok (Integer.signed negative (Text.digitsValue digits))

/-- Reads a whole number. -/
def readInteger (text : Text) : Except Complaint Int :=
  match readPlainInteger text with
  | .error .notAnInteger =>
    match plainInteger? text with
    | some plain => readPlainInteger plain
    | none => .error .notAnInteger
  | found => found

/-- Reads a float without low lines. -/
def plainFloat? (text : Text) : Option Double :=
  if '_' ∈ text then none else Double.readAscii? text

/-- Reads a float. -/
def readFloat (text : Text) : Except Complaint Double :=
  let unlined := fun _ => (withoutLines? text).bind plainFloat?
  match (plainFloat? (Integer.trimmed text)).orElse unlined with
  | some x => .ok x
  | none => .error .notAFloat

end PageDirectives.Settings
