import PageDirectives.Yaml.Cursor
/-!
Plain scalars. They end before a comment, before a colon that ends a word, before the marks of a
collection in brackets, and where indentation goes back. Line breaks inside are folded.
-/
namespace PageDirectives.Yaml.Plain

/-- The marks that end a plain scalar inside brackets. -/
def bracketMarks : List Char := [',', '?', '[', ']', '\x7b', '\x7d']

/-- Whether a colon before a text makes what stands before it a key. -/
def colonEnds (bracketed : Bool) (text : Text) : Bool :=
  endsWord text || (bracketed && (text.head?.map fun c =>
    c != '?' && bracketMarks.contains c).getD false)

/-- The characters of a plain scalar up to the next gap or the end. -/
def word (bracketed : Bool) : Text → Text
  | [] => []
  | c :: text =>
    if endsWord (c :: text) || (c == ':' && colonEnds bracketed text) ||
      (bracketed && bracketMarks.contains c) then []
    else c :: word bracketed text

/-- The empty lines behind the first line break of a gap, and the place where the text goes on. A
line that separates documents ends the scalar. -/
def emptyLines : (fuel : Nat) → Cursor → (found : Text) → Option Text × Cursor
  | 0, c, _ => (none, c)
  | fuel + 1, c, found =>
    if c.rest.head? = some ' ' then emptyLines fuel c.step found
    else
      match c.lineBreak? with
      | none => (some found, c)
      | some (mark, c) =>
        if isSeparator c.rest then (none, c) else emptyLines fuel c (found ++ [mark])

/-- A gap between the words of a plain scalar. -/
structure Gap where
  /-- What the gap stands for; empty if the scalar ends here. -/
  text : Text
  /-- Whether a line ends in the gap. -/
  broken : Bool
  after : Cursor

/-- Reads a gap. -/
def gap (c : Cursor) : Gap :=
  let (spaces, c) := c.takeWhile (· == ' ')
  match c.lineBreak? with
  | none => ⟨spaces, false, c⟩
  | some (mark, c) =>
    if isSeparator c.rest then ⟨[], true, c⟩
    else
      match emptyLines (c.rest.length + 1) c [] with
      | (none, c) => ⟨[], true, c⟩
      | (some further, c) => ⟨fold mark further, true, c⟩

/-- A plain scalar, whether a line ended behind its last word, and the place behind it. -/
structure Scanned where
  text : Text
  broken : Bool
  after : Cursor

/-- Reads the words of a plain scalar from a place on, given what was read and the gap before. -/
def wordsFrom (bracketed : Bool) (indent : Int) :
    (fuel : Nat) → Cursor → (text before : Text) → (broken : Bool) → Scanned
  | 0, c, text, _, broken => ⟨text, broken, c⟩
  | fuel + 1, c, text, before, broken =>
    match c.rest.head? == some '#', word bracketed c.rest with
    | true, _ => ⟨text, broken, c⟩
    | false, [] => ⟨text, broken, c⟩
    | false, w =>
      let text := text ++ before ++ w
      let g := gap (c.forward w.length)
      if g.text = [] ∨ (¬ bracketed ∧ (g.after.column : Int) < indent) then
        ⟨text, g.broken, g.after⟩
      else wordsFrom bracketed indent fuel g.after text g.text g.broken

/-- Reads a plain scalar. Lines that go on have to be indented so far at least, outside brackets. -/
def scan (bracketed : Bool) (indent : Int) (c : Cursor) : Scanned :=
  wordsFrom bracketed indent (c.rest.length + 1) c [] [] false

/-- Whether a plain scalar can begin a text. -/
def begins (bracketed : Bool) : Text → Bool
  | [] => false
  | c :: text =>
    if c ∈ "-?:,[]\x7b\x7d#&*!|>'\"%@`".toList then
      !endsWord text && (c == '-' || (!bracketed && (c == '?' || c == ':')))
    else !endsWord (c :: text)

end PageDirectives.Yaml.Plain
