import PageDirectives.Text.Basic
/-!
A place in a YAML text. Lines end with a line feed, a carriage return, both together, U+0085, U+2028
or U+2029; all but the last two are read as a line feed. A byte order mark takes no column.
-/
namespace PageDirectives.Yaml

/-- Whether a character ends a line. -/
def isBreak (c : Char) : Bool :=
  c == '\n' || c == '\r' || c == '\u0085' || c == '\u2028' || c == '\u2029'

/-- Whether a character is a space or a tab. -/
def isSpace (c : Char) : Bool := c == ' ' || c == '\t'

/-- Whether a character can stand in the name of an anchor, a directive or a tag handle. -/
def isHandleChar (c : Char) : Bool := c.isAlphanum || c == '-' || c == '_'

/-- Whether a text goes on with one of some characters, a space, a line break or nothing. -/
def endsBefore (others : List Char) : Text → Bool
  | [] => true
  | c :: _ => c == ' ' || isBreak c || others.contains c

/-- Whether a word is complete before a text. -/
def endsWord (text : Text) : Bool := endsBefore ['\t'] text

/-- A line break at the front of a text, and what follows it. -/
def lineBreak? : Text → Option (Char × Text)
  | '\r' :: '\n' :: text => some ('\n', text)
  | c :: text =>
    if c == '\n' || c == '\r' || c == '\u0085' then some ('\n', text)
    else if isBreak c then some (c, text)
    else none
  | [] => none

/-- Whether a text begins like a line that separates documents. -/
def isSeparator (text : Text) : Bool :=
  (text.take 3 == ['-', '-', '-'] || text.take 3 == ['.', '.', '.']) && endsWord (text.drop 3)

/-- What a line break and the empty lines behind it stand for inside a scalar that is folded: alone,
a space; else the further breaks. -/
def fold (first : Char) (further : Text) : Text :=
  if first ≠ '\n' then first :: further
  else if further = [] then [' ']
  else further

/-- A place: the text that follows, the number of characters before, line and column. -/
structure Cursor where
  rest : Text
  index : Nat := 0
  line : Nat := 0
  column : Nat := 0
  deriving Repr, DecidableEq

namespace Cursor

/-- The place behind the next character. -/
def step : Cursor → Cursor
  | ⟨[], index, line, column⟩ => ⟨[], index, line, column⟩
  | ⟨c :: rest, index, line, column⟩ =>
    if isBreak c && !(c == '\r' && rest.head? == some '\n') then ⟨rest, index + 1, line + 1, 0⟩
    else if c == '\ufeff' then ⟨rest, index + 1, line, column⟩
    else ⟨rest, index + 1, line, column + 1⟩

/-- The place so many characters on. -/
def forward : (count : Nat) → Cursor → Cursor
  | 0, c => c
  | count + 1, c => forward count c.step

/-- The place from which a given rest of the text follows. -/
def upTo (rest : Text) (c : Cursor) : Cursor := forward (c.rest.length - rest.length) c

/-- The characters in front as long as they have a property, and the place behind them. -/
def takeWhile (p : Char → Bool) (c : Cursor) : Text × Cursor :=
  let word := c.rest.takeWhile p
  (word, c.forward word.length)

/-- The place behind the characters in front that have a property. -/
def dropWhile (p : Char → Bool) (c : Cursor) : Cursor := (c.takeWhile p).2

/-- A line break at a place, and the place behind it. -/
def lineBreak? (c : Cursor) : Option (Char × Cursor) :=
  (Yaml.lineBreak? c.rest).map fun (mark, rest) => (mark, c.upTo rest)

end Cursor
end PageDirectives.Yaml
