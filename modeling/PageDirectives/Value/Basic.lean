import PageDirectives.Calendar.Date
import PageDirectives.Number.Double
/-!
Page data: the values that headers hold, that conditions compare and that handlers may answer. A map
keeps the order in which its keys came. Keys are equal as values are, so the whole number 1, the
number 1.0 and the truth value true are one key. Objects of other kinds, with ways of their own to
be written, are left out.
-/
namespace PageDirectives

/-- A value of page data. -/
inductive Value
  | null
  | bool (b : Bool)
  | int (n : Int)
  | float (x : Double)
  | text (s : Text)
  | bytes (bs : List UInt8)
  | date (d : Date)
  | dateTime (t : DateTime)
  | pair (first second : Value)
  | list (items : List Value)
  | set (items : List Value)
  | map (entries : List (Value × Value))
  deriving Repr, Inhabited

/-- The entries of a map in order. -/
abbrev Entries := List (Value × Value)

namespace Value

/-- The name of the kind of a value. -/
def kind : Value → Text
  | null => "NoneType"
  | bool _ => "bool"
  | int _ => "int"
  | float _ => "float"
  | text _ => "str"
  | bytes _ => "bytes"
  | date _ => "date"
  | dateTime _ => "datetime"
  | pair .. => "tuple"
  | list _ => "list"
  | set _ => "set"
  | map _ => "dict"

/-- The name of the kind of a value with the library it comes from, if it is not built in. -/
def qualifiedKind : Value → Text
  | date _ => "datetime.date"
  | dateTime _ => "datetime.datetime"
  | v => v.kind

/-- Whether a value counts as true: it is not null, false, zero or empty. -/
def isTruthy : Value → Bool
  | null => false
  | bool b => b
  | int n => n != 0
  | float x => !x.isZero
  | text s => !s.isEmpty
  | bytes bs => !bs.isEmpty
  | date _ => true
  | dateTime _ => true
  | pair .. => true
  | list items => !items.isEmpty
  | set items => !items.isEmpty
  | map entries => !entries.isEmpty

/-- The items of a value that can be gone through: characters, bytes, items, or the keys of a
map. -/
def items? : Value → Option (List Value)
  | text s => some (s.map fun c => text [c])
  | bytes bs => some (bs.map fun b => int b.toNat)
  | pair first second => some [first, second]
  | list items => some items
  | set items => some items
  | map entries => some (entries.map (·.1))
  | _ => none

/-- The number that a whole number, a float or a truth value is, as a whole number or a float. -/
def number? : Value → Option (Int ⊕ Double)
  | bool b => some (.inl (if b then 1 else 0))
  | int n => some (.inl n)
  | float x => some (match x.toInt? with
    | some n => .inl n
    | none => .inr x)
  | _ => none

/-- Whether two values are the same key of a map. Only scalars are keys. -/
def sameKey (v w : Value) : Bool :=
  match number? v, number? w with
  | some a, some b => a == b
  | none, none =>
    match v, w with
    | null, null => true
    | text s, text t => s == t
    | bytes a, bytes b => a == b
    | date d, date e => d == e
    | dateTime s, dateTime t => s == t
    | _, _ => false
  | _, _ => false

/-- The first part of a value that cannot be a key of a map, if there is one. -/
def unhashable? : Value → Option Value
  | list items => some (list items)
  | set items => some (set items)
  | map entries => some (map entries)
  | pair first second =>
    match unhashable? first with
    | some v => some v
    | none => unhashable? second
  | _ => none

end Value

namespace Entries

/-- The value under a key. -/
def get? (key : Value) : Entries → Option Value
  | [] => none
  | (k, v) :: rest => if k.sameKey key then some v else get? key rest

/-- Puts a value under a key. A key that is there keeps its place and its first form. -/
def put (key value : Value) : Entries → Entries
  | [] => [(key, value)]
  | (k, v) :: rest => if k.sameKey key then (k, value) :: rest else (k, v) :: put key value rest

/-- The entries of a list of pairs, later values taking the place of earlier ones. -/
def ofList (pairs : List (Value × Value)) : Entries :=
  pairs.foldl (fun entries (k, v) => put k v entries) []

/-- The value under a text. -/
def at? (key : Text) (entries : Entries) : Option Value := get? (.text key) entries

end Entries
end PageDirectives
