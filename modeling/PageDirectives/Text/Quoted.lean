import PageDirectives.Text.Basic
import PageDirectives.Text.Toggles
import PageDirectives.Text.PrintableTable
/-!
Quoted literals of texts and of byte strings. A literal stands in single quotes, or in double
quotes if it holds a single quote and no double one; the quote in use and the backslash are
escaped, and so is everything that is not printable.
-/
namespace PageDirectives.Text

/-- Whether a character is written as it is inside a literal. -/
def isPrintable (c : Char) : Bool :=
  if c.toNat < 128 then 32 ≤ c.toNat && c.toNat < 127
  else Toggles.has printableToggles c.toNat

/-- The lower-case hexadecimal digits of a number, at least `width` of them. -/
def hexDigits (width n : Nat) : Text :=
  let digits := Nat.toDigits 16 n
  List.replicate (width - digits.length) '0' ++ digits

/-- The numeric escape of a code point, in the shortest of its three widths. -/
def escapeCode (n : Nat) : Text :=
  if n < 0x100 then '\\' :: 'x' :: hexDigits 2 n
  else if n < 0x10000 then '\\' :: 'u' :: hexDigits 4 n
  else '\\' :: 'U' :: hexDigits 8 n

/-- One character inside a literal that stands in a given quote. -/
def quoteChar (quote c : Char) : Text :=
  if c == quote || c == '\\' then ['\\', c]
  else if c == '\n' then ['\\', 'n']
  else if c == '\r' then ['\\', 'r']
  else if c == '\t' then ['\\', 't']
  else if isPrintable c then [c]
  else escapeCode c.toNat

/-- The quote that a literal of a text stands in. -/
def quoteFor (text : Text) : Char :=
  if '\'' ∈ text ∧ '"' ∉ text then '"' else '\''

/-- The quoted literal of a text. -/
def quoted (text : Text) : Text :=
  let quote := quoteFor text
  quote :: text.flatMap (quoteChar quote) ++ [quote]

/-- One byte inside a literal that stands in a given quote. -/
def quoteByte (quote : Char) (b : UInt8) : Text :=
  let c := Char.ofNat b.toNat
  if b.toNat < 128 && (isPrintable c || c == '\n' || c == '\r' || c == '\t') then quoteChar quote c
  else escapeCode b.toNat

/-- The quoted literal of a byte string. -/
def quotedBytes (bytes : List UInt8) : Text :=
  let quote := quoteFor (bytes.map fun b => Char.ofNat b.toNat)
  'b' :: quote :: bytes.flatMap (quoteByte quote) ++ [quote]

end PageDirectives.Text
