import PageDirectives.Number.Decimal
import PageDirectives.Text.Blank
import PageDirectives.Value.Printer
/-!
Conditions on page data. The shapes of a condition are tried in a fixed order and the first that
fits decides: nothing, `!key`, `key == text`, `key != text`, `key > number`, `key < number`, `key`.
A key that holds an operator can therefore not be asked for.
-/
namespace PageDirectives

namespace Condition

/-- What a condition compares: what page data has under a key, which may be nothing at all. -/
inductive Operand
  | absent
  | value (v : Value)

/-- What page data has under a key. -/
def Operand.ofEntry : Option Value → Operand
  | none => absent
  | some v => value v

/-- Whether a value is null. -/
def isNull : Value → Bool
  | .null => true
  | _ => false

mutual

/-- A value as authors write it in a header, for comparison as text. An item of a list that is null
is written as nothing. -/
def asText : Value → Except NumberError Text
  | .null => .ok "null"
  | .bool b => .ok (if b then "true" else "false")
  | .float x =>
    match x, x.toInt? with
    | .nan, _ => .ok "NaN"
    | _, some n => Integer.write n
    | _, none => .ok x.write
  | .list items => do
    let items ← asTexts items
    .ok (Text.join [','] items)
  | .pair first second => do
    let first ← if isNull first then .ok [] else asText first
    let second ← if isNull second then .ok [] else asText second
    .ok (Text.join [','] [first, second])
  | v => v.display

/-- The items of a list as texts. -/
def asTexts : List Value → Except NumberError (List Text)
  | [] => .ok []
  | v :: rest => do
    let first ← if isNull v then .ok [] else asText v
    let others ← asTexts rest
    .ok (first :: others)

end

/-- An operand as text; an absent one has a word of its own. -/
def operandText : Operand → Except NumberError Text
  | .absent => .ok "undefined"
  | .value v => asText v

/-- A text as a number: nothing is zero, and what is no number is NaN. -/
def textNumber (text : Text) : Double :=
  let text := Text.trim text
  if text = [] then Double.zero else (Double.read? text).getD .nan

/-- An operand as a number; what is none is NaN. -/
def operandNumber : Operand → Except NumberError Double
  | .absent => .ok .nan
  | .value v =>
    match v with
    | .null => .ok Double.zero
    | .bool b => .ok (if b then Double.one else Double.zero)
    | .int n => Double.ofInt n
    | .float x => .ok x
    | .text s => .ok (textNumber s)
    | _ => .ok .nan

/-- Whether an operand counts as true. NaN and an absent one do not. -/
def operandHolds : Operand → Bool
  | .absent => false
  | .value (.float .nan) => false
  | .value v => v.isTruthy

/-- What page data has under a key. -/
def look (page : Entries) (key : Text) : Operand := Operand.ofEntry (page.at? key)

/-- A text without the blanks around it, and then without one pair of quotes around it. -/
def unquote (text : Text) : Text :=
  match Text.trim text with
  | c :: rest =>
    if (c = '"' ∨ c = '\'') ∧ rest.getLast? = some c then rest.dropLast else c :: rest
  | [] => []

/-- A condition by its shape. -/
inductive Test
  | never
  | absent (key : Text)
  | equal (key expected : Text)
  | unequal (key expected : Text)
  | above (key limit : Text)
  | below (key limit : Text)
  | present (key : Text)
  deriving Repr, DecidableEq

/-- The shape of a condition: the first that fits, in a fixed order. -/
def Test.ofText (text : Text) : Test :=
  match Text.trim text with
  | [] => never
  | '!' :: key => absent (Text.trim key)
  | condition =>
    match Text.cut? "==" condition with
    | some (key, expected) => equal (Text.trim key) (unquote expected)
    | none =>
      match Text.cut? "!=" condition with
      | some (key, expected) => unequal (Text.trim key) (unquote expected)
      | none =>
        match Text.cut? ['>'] condition with
        | some (key, limit) => above (Text.trim key) limit
        | none =>
          match Text.cut? ['<'] condition with
          | some (key, limit) => below (Text.trim key) limit
          | none => present condition

/-- Whether a test holds on page data. -/
def Test.holds (page : Entries) : Test → Except NumberError Bool
  | never => .ok false
  | absent key => .ok (!operandHolds (look page key))
  | equal key expected => (operandText (look page key)).map (· == expected)
  | unequal key expected => (operandText (look page key)).map (· != expected)
  | above key limit => (operandNumber (look page key)).map (Double.lt (textNumber limit))
  | below key limit => (operandNumber (look page key)).map (·.lt (textNumber limit))
  | present key => .ok (operandHolds (look page key))

/-- Whether a condition holds on page data. -/
def holds (text : Text) (page : Entries) : Except NumberError Bool := (Test.ofText text).holds page

/-- Whether the text of a value is a condition that holds on page data. -/
def valueHolds (v : Value) (page : Entries) : Except NumberError Bool :=
  if v.isTruthy then do holds (← v.display) page else .ok false

end Condition
end PageDirectives
