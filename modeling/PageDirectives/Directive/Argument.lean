import PageDirectives.Number.Integer
import PageDirectives.Text.Blank
import PageDirectives.Text.Search
import PageDirectives.Text.Word
/-!
Arguments on the opening line of a directive: pairs `key=value`, where the value may stand in double
or single quotes, and counts written as a leading number. Text between the pairs is passed over.
-/
namespace PageDirectives.Argument

/-- What an argument says. -/
structure Pair where
  key : Text
  value : Text
  deriving Repr, DecidableEq

/-- A value in quotes behind its opening quote, and its size with both quotes. -/
def quotedValue? (quote : Char) (text : Text) : Option (Text × Nat) :=
  let value := text.takeWhile (· != quote)
  if (text.drop value.length).head? = some quote then some (value, value.length + 2) else none

/-- A value at the front of a text and its size: in quotes, or up to the next blank. -/
def value? : Text → Option (Text × Nat)
  | [] => none
  | c :: text =>
    if c = '"' ∨ c = '\'' then quotedValue? c text
    else if Text.isBlank c then none
    else
      let value := c :: text.takeWhile (!Text.isBlank ·)
      some (value, value.length)

/-- Recognises one argument. -/
def recogniser : Recogniser Pair := fun _ text =>
  match text with
  | [] => none
  | c :: rest =>
    if !Text.isNameStart c then none
    else do
      let key := c :: rest.takeWhile Text.isNameChar
      let tail ← Text.after? ['='] (text.drop key.length)
      let (value, size) ← value? tail
      some (⟨key, value⟩, key.length + 1 + size)

/-- Puts a value under a key; a key that is there keeps its place. -/
def put (pair : Pair) : List Pair → List Pair
  | [] => [pair]
  | p :: rest => if p.key = pair.key then pair :: rest else p :: put pair rest

/-- The arguments in a text by their keys, the last value of each key counting. -/
def ofText (text : Text) : List Pair :=
  (Search.all recogniser text).foldl (fun pairs hit => put hit.found pairs) []

/-- The value of a key. -/
def get? (key : Text) (pairs : List Pair) : Option Text :=
  (pairs.find? (·.key == key)).map (·.value)

/-- Whether a text holds nothing but arguments and blanks. -/
def isOnlyPairs (text : Text) : Bool :=
  Text.isAllBlank (Search.exchange recogniser (fun _ => []) text)

/-- The positive number that a text begins with, or a default. -/
def count (text : Text) (otherwise : Int) : Except NumberError Int :=
  let digits := (Text.trimStart text).takeWhile Text.isDigit
  if digits = [] then .ok otherwise
  else do
    let n ← Integer.ofDigits digits
    .ok (if n = 0 then otherwise else n)

end PageDirectives.Argument
