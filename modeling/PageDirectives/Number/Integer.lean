import PageDirectives.Number.Error
import PageDirectives.Text.Blank
import PageDirectives.Text.Digit
import PageDirectives.Text.Quoted
/-!
Whole numbers and their decimal texts. Digits of every script are read, single low lines may
separate digits, and blanks around the number do not count.
-/
namespace PageDirectives.Integer

/-- The decimal digits of a natural number. -/
def digitsOf (n : Nat) : Text := Nat.toDigits 10 n

/-- A whole number in decimal, whatever its length. -/
def decimal (n : Int) : Text :=
  if n < 0 then '-' :: digitsOf n.natAbs else digitsOf n.natAbs

/-- A whole number in decimal, refused beyond the digit limit. -/
def write (n : Int) : Except NumberError Text :=
  if (digitsOf n.natAbs).length ≤ digitLimit then .ok (decimal n) else .error .tooLongToWrite

/-- Digits in which single low lines separate groups, without the low lines. -/
def ungroup? (isDigit : Char → Bool) : Text → Option Text
  | [] => none
  | [c] => if isDigit c then some [c] else none
  | c :: '_' :: text => if isDigit c then (ungroup? isDigit text).map (c :: ·) else none
  | c :: text => if isDigit c then (ungroup? isDigit text).map (c :: ·) else none

/-- The sign at the front of a number, true for minus, and what follows it. -/
def sign : Text → Bool × Text
  | '-' :: text => (true, text)
  | '+' :: text => (false, text)
  | text => (false, text)

/-- A natural number with its sign. -/
def signed (negative : Bool) (n : Nat) : Int := if negative then -(n : Int) else n

/-- The number that decimal digits write, refused beyond the digit limit. -/
def ofDigits (digits : Text) : Except NumberError Nat :=
  if digits.length ≤ digitLimit then .ok (Text.digitsValue digits)
  else .error (.tooLongToRead digits.length)

/-- Whether a character may stand around a number: a blank, but no information separator. -/
def isMargin (c : Char) : Bool := Text.isBlank c && !(28 ≤ c.toNat && c.toNat ≤ 31)

/-- A text without what may stand around a number. -/
def trimmed (text : Text) : Text :=
  ((text.dropWhile isMargin).reverse.dropWhile isMargin).reverse

/-- Reads a whole number in decimal. -/
def read (text : Text) : Except NumberError Int :=
  let (negative, body) := sign (trimmed text)
  match ungroup? Text.isDigit body with
  | none => .error (.notAnInteger 10 (Text.quoted text))
  | some digits => (ofDigits digits).map (signed negative)

/-- The value of a digit up to `f`, in either case. -/
def hexDigit? (c : Char) : Option Nat :=
  if c.isDigit then some (c.toNat - 48)
  else if 'a' ≤ c ∧ c ≤ 'f' then some (c.toNat - 87)
  else if 'A' ≤ c ∧ c ≤ 'F' then some (c.toNat - 55)
  else none

/-- The letter that may follow a zero in front of the digits of a base. -/
def baseLetter? : (base : Nat) → Option Char
  | 2 => some 'b'
  | 8 => some 'o'
  | 16 => some 'x'
  | _ => none

/-- The digits of a number without the mark of their base, behind which a low line may stand. -/
def withoutBaseMark (base : Nat) (text : Text) : Text :=
  match text with
  | '0' :: c :: rest =>
    if baseLetter? base = some c.toLower then (Text.after? ['_'] rest).getD rest else text
  | _ => text

/-- Reads a whole number in base two, eight or sixteen. -/
def readIn (base : Nat) (text : Text) : Except NumberError Int :=
  let (negative, body) := sign (Text.asciiDigits (trimmed text))
  let isDigit (c : Char) : Bool := ((hexDigit? c).map fun n => decide (n < base)).getD false
  match ungroup? isDigit (withoutBaseMark base body) with
  | none => .error (.notAnInteger base (Text.quoted text))
  | some digits =>
    .ok (signed negative (digits.foldl (fun n c => base * n + (hexDigit? c).getD 0) 0))

end PageDirectives.Integer
