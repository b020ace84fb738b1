import PageDirectives.Directive.Scan
import PageDirectives.Markup.Token
import PageDirectives.Text.Digit
/-!
The lexer of directive markup. It is in one of three states: in running text, in the arguments of a
directive, or in a condition; a line feed always leads back to running text. In each state the first
rule that reads something at the front of the rest decides.
-/
namespace PageDirectives.Lexer

/-- Where the lexer is. -/
inductive State
  | body
  | args
  | condition
  deriving Repr, DecidableEq

/-- What a rule reads: its tokens, the state behind it, and how many characters it takes. -/
structure Step where
  tokens : List Token
  next : State
  size : Nat

/-- A rule reads something at the front of a text, or nothing. The flag tells whether a line begins
there. -/
abbrev Rule := (lineStart : Bool) → (text : Text) → Option Step

/-- A single token that ends in a state. -/
def single (kind : TokenKind) (next : State) (text : Text) : Option Step :=
  if text = [] then none else some ⟨[⟨kind, text⟩], next, text.length⟩

/-- The longest run of characters of a class as a token. -/
def run (kind : TokenKind) (next : State) (p : Char → Bool) : Rule := fun _ text =>
  single kind next (text.takeWhile p)

/-- Blanks that the lexer knows as such: spaces and tabs. -/
def isSpace (c : Char) : Bool := c == ' ' || c == '\t'

/-- Whether nothing but spaces and tabs stands before the end of the line. -/
def spacesOnly (text : Text) : Bool := (Text.firstLine text).all isSpace

/-- A line feed, which leads back to running text. -/
def lineFeed : Rule := fun _ text =>
  match text with
  | '\n' :: _ => some ⟨[⟨.whitespace, ['\n']⟩], .body, 1⟩
  | _ => none

/-- A comment between two pairs of percent signs. -/
def comment : Rule := fun _ text => do
  let rest ← Text.after? ['%', '%'] text
  let (body, _) ← Text.cut? ['%', '%'] rest
  single .comment .body ('%' :: '%' :: body ++ ['%', '%'])

/-- A directive mark at the start of a line with a word behind it. -/
def directive (kind : TokenKind) (next : State) (word : Text → Option Text) : Rule :=
  fun lineStart text =>
    if !lineStart then none
    else do
      let rest ← Text.after? Directive.mark text
      let name ← word rest
      some ⟨[⟨.punctuation, Directive.mark⟩, ⟨kind, name⟩], next,
        Directive.mark.length + name.length⟩

/-- The terminator on a line of its own. Blanks behind it are taken without a token. -/
def terminator : Rule := fun lineStart text => do
  let step ← directive .keyword .body
    (fun rest => (Text.after? Directive.terminator rest).bind fun tail =>
      if spacesOnly tail then some Directive.terminator else none) lineStart text
  some { step with size := (Text.firstLine text).length }

/-- The word that begins a condition. -/
def conditionWord : Text := "if"

/-- A conditional with the spaces behind it. -/
def conditional : Rule := fun lineStart text => do
  let step ← directive .keyword .condition
    (fun rest => (Text.after? conditionWord rest).map fun _ => conditionWord) lineStart text
  let spaces := (text.drop step.size).takeWhile isSpace
  if spaces = [] then none
  else some ⟨step.tokens ++ [⟨.whitespace, spaces⟩], .condition, step.size + spaces.length⟩

/-- A name at the front of a text that is complete and one of those given. -/
def completeName? (names : List Text) (text : Text) : Option Text :=
  names.find? fun name =>
    match Text.after? name text with
    | some rest => Directive.nameEnds rest
    | none => false

/-- The name of directives for completions. -/
def generatorNames : List Text := ["ai"]

/-- The names of directives that lay out sections. -/
def layoutNames : List Text :=
  ["columns", "split", "grid", "cards", "card", "gallery", "hero", "stack-mobile", "collection"]

/-- Any name at the front of a text. -/
def anyName? (text : Text) : Option Text :=
  match text with
  | [] => none
  | c :: rest =>
    if Text.isNameStart c then some (c :: rest.takeWhile Text.isNameChar) else none

/-- A delimiter of sections on a line of its own, with the spaces behind it. -/
def delimiter : Rule := fun lineStart text =>
  if !lineStart then none
  else do
    let rest ← Text.after? "---" text
    if spacesOnly rest then single .punctuation .body (Text.firstLine text) else none

/-- One character of running text. -/
def anyChar : Rule := fun _ text => single .text .body (text.take 1)

/-- The rules of running text, in the order in which they are tried. -/
def bodyRules : List Rule :=
  [comment, terminator, conditional,
    directive .decorator .args (completeName? generatorNames),
    directive .declaration .args (completeName? layoutNames),
    directive .tag .args anyName?,
    delimiter,
    run .text .body (fun c => c != '\n' && c != '%'),
    lineFeed, anyChar]

/-- A text in quotes that ends on its line. -/
def quotedText? (text : Text) : Option Text :=
  match text with
  | [] => none
  | quote :: rest =>
    if quote = '"' ∨ quote = '\'' then
      let body := rest.takeWhile fun c => c != quote && c != '\n'
      if (rest.drop body.length).head? = some quote then some (quote :: body ++ [quote]) else none
    else none

/-- A key, an equals sign and a value in quotes or up to the next blank. -/
def keyValue : Rule := fun _ text => do
  let key ← anyName? text
  let rest ← Text.after? ['='] (text.drop key.length)
  let value := (quotedText? rest).getD (rest.takeWhile (!Text.isBlank ·))
  if value = [] then none
  else some ⟨[⟨.attribute, key⟩, ⟨.operator, ['=']⟩, ⟨.string, value⟩], .args,
    key.length + 1 + value.length⟩

/-- The parts of a number that follow a separator, as far as digits follow it. -/
def numberParts (separator : Char) : Text → Text
  | [] => []
  | c :: rest =>
    if c = separator then
      let digits := rest.takeWhile Text.isDigit
      if digits = [] then []
      else c :: digits ++ numberParts separator (rest.drop digits.length)
    else []
termination_by text => text.length

/-- Numbers with slashes between them. -/
def sizes : Rule := fun _ text =>
  let digits := text.takeWhile Text.isDigit
  if digits = [] then none
  else single .number .args (digits ++ numberParts '/' (text.drop digits.length))

/-- A sign before a word. -/
def sign : Rule := fun _ text =>
  match text with
  | [] => none
  | c :: rest =>
    if (c = '+' ∨ c = '-') ∧ ((Text.trimStart rest).head?.any Text.isWordChar) then
      single .operator .args [c]
    else none

/-- The rules of arguments. -/
def argRules : List Rule :=
  [lineFeed, keyValue, sizes, sign, run .whitespace .args isSpace,
    run .string .args (!Text.isBlank ·)]

/-- A comparison, or the mark of a negation. -/
def comparison : Rule := fun _ text =>
  match text with
  | '!' :: '=' :: _ => single .operator .condition ['!', '=']
  | '=' :: '=' :: _ => single .operator .condition ['=', '=']
  | c :: _ => if c ∈ ['<', '>', '!'] then single .operator .condition [c] else none
  | [] => none

/-- A text in quotes inside a condition. -/
def conditionText : Rule := fun _ text => (quotedText? text).bind (single .string .condition)

/-- A number with an optional sign and optional decimal places. -/
def conditionNumber : Rule := fun _ text =>
  let minus : Text := if text.head? = some '-' then ['-'] else []
  let whole := (text.drop minus.length).takeWhile Text.isDigit
  if whole = [] then none
  else
    let places := match text.drop (minus.length + whole.length) with
      | '.' :: rest =>
        let digits := rest.takeWhile Text.isDigit
        if digits = [] then [] else '.' :: digits
      | _ => []
    single .number .condition (minus ++ whole ++ places)

/-- Whether a character can stand in a key of a condition. -/
def isKeyChar (c : Char) : Bool := !Text.isBlank c && c ∉ ['!', '=', '<', '>', '"', '\'']

/-- The rules of conditions. -/
def conditionRules : List Rule :=
  [lineFeed, comparison, conditionText, conditionNumber, run .whitespace .condition isSpace,
    run .variable .condition isKeyChar]

/-- The rules of a state. -/
def State.rules : State → List Rule
  | body => bodyRules
  | args => argRules
  | condition => conditionRules

/-- The tokens of the rest of a text. A character that no rule reads is an error of its own. -/
def tokensFrom (state : State) (lineStart : Bool) : Text → List Token
  | [] => []
  | c :: text =>
    match state.rules.findSome? fun rule => rule lineStart (c :: text) with
    | none => ⟨.error, [c]⟩ :: tokensFrom state (c == '\n') text
    | some step =>
      step.tokens ++ tokensFrom step.next
        (Search.lineStartAfter (c :: text.take (step.size - 1))) (text.drop (step.size - 1))
termination_by text => text.length

/-- A text without line feeds at either end. -/
def trimLineFeeds (text : Text) : Text :=
  ((text.dropWhile (· == '\n')).reverse.dropWhile (· == '\n')).reverse

/-- A text without a byte order mark at its front. -/
def dropByteOrderMark (text : Text) : Text :=
  (Text.after? [Char.ofNat 0xfeff] text).getD text

/-- A source as the lexer sees it: its lines with line feeds, none of them outside but one at the
end. -/
def normalise (source : Text) : Text :=
  trimLineFeeds (Text.unifyLineEnds (dropByteOrderMark source)) ++ ['\n']

/-- The tokens of a source. -/
def tokens (source : Text) : List Token := tokensFrom .body true (normalise source)

end PageDirectives.Lexer
