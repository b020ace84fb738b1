import PageDirectives.Number.Integer
import PageDirectives.Yaml.Timestamp
/-!
The kinds of YAML nodes. A tag names a kind; a plain scalar without a tag has the kind that its form
shows. Numbers may hold low lines, minutes and seconds may follow colons, and a float needs a point
and a signed exponent.
-/
namespace PageDirectives.Yaml

/-- The kind of a node. -/
inductive Kind
  | null
  | truth
  | integer
  | float
  | binary
  | timestamp
  | orderedMap
  | pairs
  | set
  | string
  | sequence
  | mapping
  | merge
  | default
  | unknown
  deriving Repr, DecidableEq

namespace Kind

/-- What all tags of known kinds begin with. -/
def tagFront : Text := "tag:yaml.org,2002:"

/-- The words of known kinds. -/
def words : List (String × Kind) :=
  [("null", null), ("bool", truth), ("int", integer), ("float", float), ("binary", binary),
    ("timestamp", timestamp), ("omap", orderedMap), ("pairs", pairs), ("set", set), ("str", string),
    ("seq", sequence), ("map", mapping), ("merge", merge), ("value", default)]

/-- The kind that a tag names. -/
def ofTag (tag : Text) : Kind :=
  match Text.after? tagFront tag with
  | some word => (words.lookup (String.ofList word)).getD unknown
  | none => unknown

/-- Whether a character is a digit or a low line. -/
def isDigitOrLine (c : Char) : Bool := c.isDigit || c == '_'

/-- Whether a text is a number below sixty, of one or two digits. -/
def isSixtieth : Text → Bool
  | [c] => c.isDigit
  | [c, d] => '0' ≤ c && c ≤ '5' && d.isDigit
  | _ => false

/-- Whether a text is one or more numbers below sixty, each behind a colon. -/
def isSixtieths : Text → Bool
  | ':' :: text => (Text.splitOn ':' text).all isSixtieth
  | _ => false

/-- Whether a text without its sign is a whole number. -/
def isUnsignedInteger : Text → Bool
  | '0' :: 'b' :: digits => !digits.isEmpty && digits.all fun c => c == '0' || c == '1' || c == '_'
  | '0' :: 'x' :: digits =>
    !digits.isEmpty && digits.all fun c => (Integer.hexDigit? c).isSome || c == '_'
  | '0' :: digits => digits.all fun c => ('0' ≤ c && c ≤ '7') || c == '_'
  | c :: rest =>
    '1' ≤ c && c ≤ '9' &&
      let behind := rest.dropWhile isDigitOrLine
      behind.isEmpty || isSixtieths behind
  | [] => false

/-- Whether a text is a whole number. -/
def isInteger (text : Text) : Bool := isUnsignedInteger (Integer.sign text).2

/-- Whether a text is nothing or the exponent of a float. -/
def isExponent : Text → Bool
  | [] => true
  | [_] => false
  | e :: sign :: digits =>
    (e == 'e' || e == 'E') && (sign == '-' || sign == '+') && !digits.isEmpty &&
      digits.all Char.isDigit

/-- Whether what stands around the point makes a float. -/
def isPointed (whole fraction : Text) : Bool :=
  match (Integer.sign whole).2 with
  | [] => whole.isEmpty && (fraction.head?.map Char.isDigit).getD false &&
      isExponent (fraction.dropWhile isDigitOrLine)
  | c :: rest =>
    c.isDigit &&
      let behind := rest.dropWhile isDigitOrLine
      if behind.isEmpty then isExponent (fraction.dropWhile isDigitOrLine)
      else isSixtieths behind && fraction.all isDigitOrLine

/-- The words for infinity and for no number, behind their point. -/
def isWord (signed : Bool) (word : Text) : Bool :=
  let word := String.ofList word
  ["inf", "Inf", "INF"].contains word || (!signed && ["nan", "NaN", "NAN"].contains word)

/-- Whether a text is a float. -/
def isFloat (text : Text) : Bool :=
  let whole := text.takeWhile (· != '.')
  match text.drop whole.length with
  | [] => false
  | _ :: fraction =>
    isPointed whole fraction ||
      (whole = [] ∨ whole = ['-'] ∨ whole = ['+'] : Bool) && isWord (!whole.isEmpty) fraction

/-- The words for truth and falsehood. -/
def truthWords : List (String × Bool) :=
  [("yes", true), ("no", false), ("true", true), ("false", false), ("on", true), ("off", false)]

/-- Whether a text is a word of a list in small letters, in capitals, or with one capital. -/
def isCased (words : List String) (text : Text) : Bool :=
  words.any fun word => match word.toList with
    | [] => false
    | c :: rest =>
      text == c :: rest || text == c.toUpper :: rest || text == (c :: rest).map Char.toUpper

/-- The kind of a plain scalar. -/
def ofPlain (scalar : Text) : Kind :=
  let line := Timestamp.withoutLastBreak scalar
  if scalar = [] ∨ line = ['~'] ∨ isCased ["null"] line then null
  else if isCased (truthWords.map (·.1)) line then truth
  else if isInteger line then integer
  else if isFloat line then float
  else if Timestamp.isPlain line then timestamp
  else if line = ['<', '<'] then merge
  else if line = ['='] then default
  else if line = ['!'] ∨ line = ['&'] ∨ line = ['*'] then unknown
  else string

end Kind
end PageDirectives.Yaml
