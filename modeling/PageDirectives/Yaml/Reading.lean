import PageDirectives.Yaml.Block
import PageDirectives.Yaml.Plain
import PageDirectives.Yaml.Quoted
import PageDirectives.Yaml.Tag
import PageDirectives.Yaml.Token
/-!
From a YAML text to its tokens. Outside brackets, a column deeper than those in use opens a
collection, and going back closes it. A node in front of a colon is a key only in hindsight, so the
places where a key may begin are remembered, one for each level of brackets, until the line ends.
-/
namespace PageDirectives.Yaml

/-- A place in front of a node that may turn out to be a key. -/
structure KeyPlace where
  /-- The level of brackets. -/
  level : Nat
  /-- The number of tokens before it. -/
  position : Nat
  /-- Whether the node cannot be anything but a key. -/
  required : Bool
  cursor : Cursor

/-- The state of reading between two tokens. -/
structure Reading where
  cursor : Cursor
  /-- The number of open brackets. -/
  brackets : Nat := 0
  /-- The column of the innermost collection outside brackets. -/
  indent : Int := -1
  /-- The columns of the collections around it. -/
  outer : List Int := []
  /-- Whether a key may begin here. -/
  keyAllowed : Bool := true
  keyPlaces : List KeyPlace := []
  /-- The tokens read, the last one first. -/
  tokens : List Token := []

namespace Reading

/-- One more token. -/
def emit (t : Token) (r : Reading) : Reading := { r with tokens := t :: r.tokens }

/-- A token put where only so many stand before it. -/
def emitAt (position : Nat) (t : Token) (r : Reading) : Reading :=
  let later := r.tokens.length - position
  { r with tokens := r.tokens.take later ++ t :: r.tokens.drop later }

/-- The place so many characters on. -/
def forward (count : Nat) (r : Reading) : Reading := { r with cursor := r.cursor.forward count }

/-- One more token that is so many characters long. -/
def take (count : Nat) (t : Token) (r : Reading) : Reading := (r.forward count).emit t

/-- Whether a key may begin from here on. -/
def allowKey (allowed : Bool) (r : Reading) : Reading := { r with keyAllowed := allowed }

/-- The place of a key at the present level. -/
def keyPlace? (r : Reading) : Option KeyPlace := r.keyPlaces.find? (·.level == r.brackets)

/-- Without the place of a key at the present level. -/
def withoutKeyPlace (r : Reading) : Reading :=
  { r with keyPlaces := r.keyPlaces.filter (·.level != r.brackets) }

/-- Gives up the place of a key at the present level. -/
def dropKeyPlace (r : Reading) : Except YamlError Reading :=
  match r.keyPlace? with
  | some place => if place.required then .error .malformed else .ok r.withoutKeyPlace
  | none => .ok r

/-- Remembers that a key may begin here. -/
def saveKeyPlace (r : Reading) : Except YamlError Reading :=
  if r.keyAllowed then do
    let r ← r.dropKeyPlace
    let required := r.brackets = 0 ∧ r.indent = r.cursor.column
    .ok { r with
      keyPlaces := ⟨r.brackets, r.tokens.length, required, r.cursor⟩ :: r.keyPlaces }
  else .ok r

/-- The most characters between the front of a key and its colon. -/
def keyLimit : Nat := 1024

/-- Whether the colon of a key may still come: on the same line, and not too far away. -/
def mayBecomeKey (r : Reading) (place : KeyPlace) : Bool :=
  place.cursor.line == r.cursor.line && r.cursor.index - place.cursor.index ≤ keyLimit

/-- Gives up the places from which no key can be reached any more. -/
def dropStaleKeyPlaces (r : Reading) : Except YamlError Reading :=
  let (alive, stale) := r.keyPlaces.partition r.mayBecomeKey
  if stale.any (·.required) then .error .malformed else .ok { r with keyPlaces := alive }

/-- Closes the collections that are deeper than a column. -/
def closeDeeper (column : Int) : (outer : List Int) → Reading → Reading
  | [], r => r
  | before :: outer, r =>
    if column < r.indent then
      closeDeeper column outer { (r.emit .blockEnd) with indent := before, outer := outer }
    else r

/-- Closes the collections outside brackets that are deeper than a column. -/
def unwind (column : Int) (r : Reading) : Reading :=
  if r.brackets = 0 then closeDeeper column r.outer r else r

/-- Opens a collection at a column, if that is deeper than the last, with its token at a
position. -/
def openBlock (column : Nat) (position : Nat) (t : Token) (r : Reading) : Reading :=
  if r.indent < column then
    { (r.emitAt position t) with indent := column, outer := r.indent :: r.outer }
  else r

/-- Passes over spaces, comments and line ends. Outside brackets, a key may begin a line. -/
def toNextToken : (fuel : Nat) → Reading → Reading
  | 0, r => r
  | fuel + 1, r =>
    let c := r.cursor.dropWhile (· == ' ')
    let c := if c.rest.head? = some '#' then c.dropWhile (!isBreak ·) else c
    match c.lineBreak? with
    | none => { r with cursor := c }
    | some (_, c) =>
      toNextToken fuel { r with cursor := c, keyAllowed := r.keyAllowed || r.brackets == 0 }

/-- Begins anew in front of a separator of documents, an instruction or the end. -/
def closeAll (r : Reading) : Except YamlError Reading := do
  .ok ((← (r.unwind (-1)).dropKeyPlace).allowKey false)

/-- Reads the end of the text. -/
def readEnd (r : Reading) : Except YamlError Reading := do .ok ((← r.closeAll).emit .finish)

/-- Reads an instruction and the rest of its line. -/
def readInstruction (r : Reading) : Except YamlError Reading := do
  let r ← r.closeAll
  let (i, rest) ← Instruction.scan r.cursor.rest
  let c ← Block.endOfLine (r.cursor.upTo rest)
  .ok { (r.emit (.instruction i)) with cursor := c }

/-- Reads a separator of documents. -/
def readSeparator (t : Token) (r : Reading) : Except YamlError Reading := do
  .ok ((← r.closeAll).take 3 t)

/-- Reads an opening bracket. -/
def readOpening (t : Token) (r : Reading) : Except YamlError Reading := do
  let r ← r.saveKeyPlace
  .ok (({ r with brackets := r.brackets + 1 }.allowKey true).take 1 t)

/-- Reads a closing bracket. -/
def readClosing (t : Token) (r : Reading) : Except YamlError Reading := do
  let r ← r.dropKeyPlace
  if r.brackets = 0 then .error .malformed
  else .ok (({ r with brackets := r.brackets - 1 }.allowKey false).take 1 t)

/-- Reads a comma between items in brackets. -/
def readComma (r : Reading) : Except YamlError Reading := do
  .ok ((← (r.allowKey true).dropKeyPlace).take 1 .separator)

/-- Reads the hyphen of an item. -/
def readItem (r : Reading) : Except YamlError Reading := do
  if r.brackets = 0 ∧ ¬ r.keyAllowed then .error .malformed
  let r := if r.brackets = 0 then
      r.openBlock r.cursor.column r.tokens.length .blockSequence else r
  .ok ((← (r.allowKey true).dropKeyPlace).take 1 .item)

/-- Reads the question mark of a key. -/
def readKey (r : Reading) : Except YamlError Reading := do
  if r.brackets = 0 ∧ ¬ r.keyAllowed then .error .malformed
  let r := if r.brackets = 0 then
      r.openBlock r.cursor.column r.tokens.length .blockMapping else r
  .ok ((← (r.allowKey (r.brackets == 0)).dropKeyPlace).take 1 .key)

/-- Reads the colon of a value. The node at the place of a key becomes its key. -/
def readValue (r : Reading) : Except YamlError Reading := do
  match r.keyPlace? with
  | some place =>
    let r := r.withoutKeyPlace.emitAt place.position .key
    let r := if r.brackets = 0 then
        r.openBlock place.cursor.column place.position .blockMapping else r
    .ok ((r.allowKey false).take 1 .value)
  | none =>
    if r.brackets = 0 ∧ ¬ r.keyAllowed then .error .malformed
    let r := if r.brackets = 0 then
        r.openBlock r.cursor.column r.tokens.length .blockMapping else r
    .ok ((← (r.allowKey (r.brackets == 0)).dropKeyPlace).take 1 .value)

/-- Reads a token in front of a node, or a reference, that a function reads from a text. -/
def readMark (scan : Text → Except YamlError (Token × Text)) (r : Reading) :
    Except YamlError Reading := do
  let r ← r.saveKeyPlace
  let (t, rest) ← scan r.cursor.rest
  .ok { ((r.allowKey false).emit t) with cursor := r.cursor.upTo rest }

/-- Reads the name behind the mark of an anchor or a reference. -/
def readName (t : Text → Token) (r : Reading) : Except YamlError Reading :=
  r.readMark fun text => (anchorName (text.drop 1)).map fun (name, rest) => (t name, rest)

/-- Reads a tag. -/
def readTag (r : Reading) : Except YamlError Reading :=
  r.readMark fun text => (WrittenTag.scan text).map fun (tag, rest) => (.tag tag, rest)

/-- Reads a block scalar. -/
def readBlock (folding : Bool) (r : Reading) : Except YamlError Reading := do
  let r ← (r.allowKey true).dropKeyPlace
  let (text, c) ← Block.scan folding r.indent r.cursor
  .ok { (r.emit (.scalar text false)) with cursor := c }

/-- Reads a quoted scalar. -/
def readQuoted (quote : Quoted.Quote) (r : Reading) : Except YamlError Reading := do
  let r ← r.saveKeyPlace
  let (text, c) ← Quoted.scan quote r.cursor
  .ok { ((r.allowKey false).emit (.scalar text false)) with cursor := c }

/-- Reads a plain scalar. -/
def readPlain (r : Reading) : Except YamlError Reading := do
  let r ← r.saveKeyPlace
  let s := Plain.scan (r.brackets != 0) (r.indent + 1) r.cursor
  .ok { ((r.allowKey s.broken).emit (.scalar s.text true)) with cursor := s.after }

/-- Reads the token at a place where one begins. -/
def readToken (r : Reading) : Except YamlError Reading :=
  let bracketed := r.brackets != 0
  let lineStart := r.cursor.column == 0
  match r.cursor.rest with
  | [] => r.readEnd
  | c :: rest =>
    if lineStart && c == '%' then r.readInstruction
    else if lineStart && isSeparator (c :: rest) then
      r.readSeparator (if c == '-' then .documentStart else .documentEnd)
    else if c == '[' then r.readOpening .openSequence
    else if c == '\x7b' then r.readOpening .openMapping
    else if c == ']' then r.readClosing .closeSequence
    else if c == '\x7d' then r.readClosing .closeMapping
    else if c == ',' then r.readComma
    else if c == '-' && endsWord rest then r.readItem
    else if c == '?' && (bracketed || endsWord rest) then r.readKey
    else if c == ':' && (bracketed || endsWord rest) then r.readValue
    else if c == '*' then r.readName .reference
    else if c == '&' then r.readName .anchor
    else if c == '!' then r.readTag
    else if c == '|' && !bracketed then r.readBlock false
    else if c == '>' && !bracketed then r.readBlock true
    else if c == '\'' then r.readQuoted .single
    else if c == '"' then r.readQuoted .double
    else if Plain.begins bracketed (c :: rest) then r.readPlain
    else .error .malformed

/-- Reads one token and what it implies about those before it. -/
def next (r : Reading) : Except YamlError Reading := do
  let r ← (r.toNextToken (r.cursor.rest.length + 1)).dropStaleKeyPlaces
  (r.unwind r.cursor.column).readToken

/-- Reads on to the end of the text or to the first error. -/
def run : (fuel : Nat) → Reading → List Token
  | 0, r => (Token.broken .malformed :: r.tokens).reverse
  | fuel + 1, r =>
    match r.next with
    | .error e => (Token.broken e :: r.tokens).reverse
    | .ok r => if r.tokens.head? = some .finish then r.tokens.reverse else run fuel r

end Reading

/-- Whether a character may stand in a YAML text. -/
def isAllowed (c : Char) : Bool :=
  let n := c.toNat
  n == 9 || n == 10 || n == 13 || (0x20 ≤ n && n ≤ 0x7e) || n == 0x85 ||
    (0xa0 ≤ n && n ≤ 0xd7ff) || (0xe000 ≤ n && n ≤ 0xfffd) || 0x10000 ≤ n

/-- The tokens of a text. A byte order mark at its front does not count. -/
def tokens (text : Text) : List Token :=
  if text.all isAllowed then
    let start : Cursor := { rest := text }
    let start := if text.head? = some '\ufeff' then start.step else start
    Reading.run (text.length + 1) { cursor := start }
  else [.broken .malformed]

end PageDirectives.Yaml
