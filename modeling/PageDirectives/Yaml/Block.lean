import PageDirectives.Yaml.Cursor
import PageDirectives.Yaml.Error
/-!
Block scalars: the indented lines below a bar, which keeps line breaks, or below a greater-than
sign, which folds those between two lines that do not begin with a space. A sign behind the mark
says what becomes of the breaks at the end, and a digit how deep the lines are indented.
-/
namespace PageDirectives.Yaml.Block

/-- What becomes of the line breaks at the end. -/
inductive Ending
  | none
  | one
  | all
  deriving Repr, DecidableEq

/-- The line that opens a block scalar. -/
structure Opening where
  ending : Ending
  depth : Option Nat
  deriving Repr, DecidableEq

/-- The ending that a sign asks for. -/
def ending? : Char → Option Ending
  | '+' => some .all
  | '-' => some .none
  | _ => Option.none

/-- The depth that a digit asks for; zero is malformed. -/
def depth (c : Char) : Except YamlError Nat :=
  if c = '0' then .error .malformed else .ok (c.toNat - 48)

/-- The place behind spaces and a comment at the end of a line, and behind the line. -/
def endOfLine (c : Cursor) : Except YamlError Cursor :=
  let c := c.dropWhile (· == ' ')
  let c := if c.rest.head? = some '#' then c.dropWhile (!isBreak ·) else c
  match c.rest, c.lineBreak? with
  | [], _ => .ok c
  | _, some (_, c) => .ok c
  | _, none => .error .malformed

/-- Reads what stands behind the mark of a block scalar. -/
def opening (text : Text) : Except YamlError (Opening × Text) :=
  match text with
  | [] => .ok (⟨.one, none⟩, [])
  | c :: rest =>
    match ending? c with
    | some ending =>
      match rest with
      | d :: more =>
        if d.isDigit then (depth d).map fun n => (⟨ending, some n⟩, more)
        else .ok (⟨ending, none⟩, rest)
      | [] => .ok (⟨ending, none⟩, [])
    | none =>
      if c.isDigit then do
        let n ← depth c
        match rest with
        | d :: more =>
          match ending? d with
          | some ending => .ok (⟨ending, some n⟩, more)
          | none => .ok (⟨.one, some n⟩, rest)
        | [] => .ok (⟨.one, some n⟩, [])
      else .ok (⟨.one, none⟩, text)

/-- The empty lines in front of the first line, the deepest column that spaces reach, and the place
where the text begins. -/
def leading : (fuel : Nat) → Cursor → (deepest : Nat) → Text × Nat × Cursor
  | 0, c, deepest => ([], deepest, c)
  | fuel + 1, c, deepest =>
    if c.rest.head? = some ' ' then leading fuel c.step (max deepest c.step.column)
    else
      match c.lineBreak? with
      | none => ([], deepest, c)
      | some (mark, c) =>
        let (found, deepest, c) := leading fuel c deepest
        (mark :: found, deepest, c)

/-- The place behind the spaces in front of a column. -/
def indented (column : Nat) : (fuel : Nat) → Cursor → Cursor
  | 0, c => c
  | fuel + 1, c =>
    if c.column < column ∧ c.rest.head? = some ' ' then indented column fuel c.step else c

/-- The empty lines in front of the next line, and the place at its column. -/
def emptyLines (column : Nat) : (fuel : Nat) → Cursor → Text × Cursor
  | 0, c => ([], c)
  | fuel + 1, c =>
    let c := indented column column c
    match c.lineBreak? with
    | none => ([], c)
    | some (mark, c) =>
      let (found, c) := emptyLines column fuel c
      (mark :: found, c)

/-- Whether a line at a column goes on with the scalar. -/
def goesOn (column : Nat) (c : Cursor) : Bool := c.column == column && !c.rest.isEmpty

/-- Whether a line begins with a space or a tab. -/
def beginsWithSpace (c : Cursor) : Bool := (c.rest.head?.map isSpace).getD false

/-- What a scalar is made of: its lines joined, the last line break, and the empty lines after
it. -/
structure Lines where
  text : Text
  last : Text
  after : Text
  next : Cursor

/-- Reads the lines from a place on, given the empty lines before it. -/
def linesFrom (folding : Bool) (column : Nat) :
    (fuel : Nat) → (empty : Text) → Cursor → Lines
  | 0, empty, c => ⟨[], [], empty, c⟩
  | fuel + 1, empty, c =>
    let (line, behind) := c.takeWhile (!isBreak ·)
    let (mark, next) := match behind.lineBreak? with
      | some (mark, next) => ([mark], next)
      | none => ([], behind)
    let (further, next) := emptyLines column (next.rest.length + 1) next
    if goesOn column next then
      let joint : Text :=
        if folding && mark == ['\n'] && !beginsWithSpace c && !beginsWithSpace next then
          if further = [] then [' '] else []
        else mark
      let more := linesFrom folding column fuel further next
      { more with text := empty ++ line ++ joint ++ more.text }
    else ⟨empty ++ line, mark, further, next⟩

/-- Reads a block scalar at a place in front of its mark, inside lines of some indentation. -/
def scan (folding : Bool) (indent : Int) (c : Cursor) : Except YamlError (Text × Cursor) := do
  let (how, rest) ← opening (c.rest.drop 1)
  if !endsBefore [] rest then .error .malformed
  let c ← endOfLine (c.upTo rest)
  let least := max (indent + 1) 1
  let (empty, column, c) := match how.depth with
    | some n =>
      let column := (least + n - 1).toNat
      let (empty, c) := emptyLines column (c.rest.length + 1) c
      (empty, column, c)
    | none =>
      let (empty, deepest, c) := leading (c.rest.length + 1) c 0
      (empty, max least.toNat deepest, c)
  let found : Lines :=
    if goesOn column c then linesFrom folding column (c.rest.length + 1) empty c
    else ⟨[], [], empty, c⟩
  .ok (match how.ending with
    | .none => (found.text, found.next)
    | .one => (found.text ++ found.last, found.next)
    | .all => (found.text ++ found.last ++ found.after, found.next))

end PageDirectives.Yaml.Block
