import PageDirectives.Number.Double
import PageDirectives.Number.Integer
/-!
Reading decimal texts as binary64 numbers: digits with single low lines between them, a point, an
exponent, or a word for infinity or for no number at all. The value is rounded once, from exact.
-/
namespace PageDirectives.Double

/-- Zero, one or more digits in groups; nothing at all is read as no digits. -/
def optionalDigits? (text : Text) : Option Text :=
  if text = [] then some [] else Integer.ungroup? Char.isDigit text

/-- The exponent that a text writes, if it has that shape. -/
def exponent? (text : Text) : Option Int :=
  let (negative, body) := Integer.sign text
  (Integer.ungroup? Char.isDigit body).map fun digits =>
    Integer.signed negative (Text.digitsValue digits)

/-- The number (`digits`, read as one whole number) · 10^`power`. Beyond any exponent a binary64
number can have, only the direction matters. -/
def ofDecimal (negative : Bool) (digits : Text) (power : Int) : Double :=
  let digits := digits.dropWhile (· == '0')
  let n := Text.digitsValue digits
  if n = 0 then signedZero negative
  else if power + digits.length > 400 then infinite negative
  else if power + digits.length < -400 then signedZero negative
  else if power < 0 then ofRatio negative n (Nat.pow 10 power.natAbs)
  else ofRatio negative (n * Nat.pow 10 power.natAbs) 1

/-- Reads digits with an optional point and an optional exponent. -/
def readUnsigned? (negative : Bool) (text : Text) : Option Double :=
  let significand := text.takeWhile fun c => c != 'e' && c != 'E'
  let tail := text.drop significand.length
  let whole := significand.takeWhile (· != '.')
  let fraction := significand.drop whole.length
  do
    let power ← match tail with
      | [] => some 0
      | _ :: tail => exponent? tail
    let wholeDigits ← optionalDigits? whole
    let fractionDigits ← match fraction with
      | [] => some []
      | _ :: fraction => optionalDigits? fraction
    if wholeDigits = [] ∧ fractionDigits = [] then none
    else some (ofDecimal negative (wholeDigits ++ fractionDigits) (power - fractionDigits.length))

/-- Reads a text without blanks around it, digits being ASCII. -/
def readAscii? (text : Text) : Option Double :=
  let (negative, body) := Integer.sign text
  let word := String.ofList (body.map Char.toLower)
  if word = "inf" ∨ word = "infinity" then some (infinite negative)
  else if word = "nan" then some nan
  else readUnsigned? negative body

/-- Reads a decimal number, with blanks allowed around it. -/
def read? (text : Text) : Option Double := readAscii? (Text.asciiDigits (Integer.trimmed text))

/-- Reads a decimal number or says why not. -/
def read (text : Text) : Except NumberError Double :=
  match read? text with
  | some x => .ok x
  | none => .error (.notAFloat (Text.quoted text))

end PageDirectives.Double
