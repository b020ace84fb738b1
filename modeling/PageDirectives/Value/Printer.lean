import PageDirectives.Value.Basic
import PageDirectives.Number.Shortest
import PageDirectives.Text.Quoted
/-!
The texts of values: `literal` writes a value as it would be given, with quotes and brackets, and
`display` leaves a text as it is and writes days and times in their ISO form. Whole numbers beyond
the digit limit have no text.
-/
namespace PageDirectives.Value

mutual

/-- The literal of a value. -/
def literal : Value → Except NumberError Text
  | null => .ok "None"
  | bool b => .ok (if b then "True" else "False")
  | int n => Integer.write n
  | float x => .ok x.write
  | text s => .ok (Text.quoted s)
  | bytes bs => .ok (Text.quotedBytes bs)
  | date d => .ok d.literal
  | dateTime t => .ok t.literal
  | pair first second => do
    let first ← literal first
    let second ← literal second
    .ok ('(' :: first ++ ", " ++ second ++ ")")
  | list items => do
    let items ← literals items
    .ok ('[' :: Text.join ", " items ++ "]")
  | set [] => .ok "set()"
  | set items => do
    let items ← literals items
    .ok ('\x7b' :: Text.join ", " items ++ ['\x7d'])
  | map entries => do
    let entries ← entryLiterals entries
    .ok ('\x7b' :: Text.join ", " entries ++ ['\x7d'])

/-- The literals of several values. -/
def literals : List Value → Except NumberError (List Text)
  | [] => .ok []
  | v :: rest => do
    let first ← literal v
    let others ← literals rest
    .ok (first :: others)

/-- The literals of the entries of a map. -/
def entryLiterals : List (Value × Value) → Except NumberError (List Text)
  | [] => .ok []
  | (k, v) :: rest => do
    let key ← literal k
    let value ← literal v
    let others ← entryLiterals rest
    .ok ((key ++ ": " ++ value) :: others)

end

/-- The text of a value as a reader sees it. -/
def display : Value → Except NumberError Text
  | text s => .ok s
  | date d => .ok d.iso
  | dateTime t => .ok (t.isoWith ' ')
  | v => literal v

end PageDirectives.Value
