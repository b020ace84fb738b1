import PageDirectives.Calendar.Iso
import PageDirectives.Yaml.Error
/-!
Timestamps of YAML: a day, and behind a letter or spaces a time with a fraction and an offset.
-/
namespace PageDirectives.Yaml

/-- A timestamp as it is written. -/
structure Timestamp where
  year : Nat
  month : Nat
  day : Nat
  /-- Hour, minute, second and microsecond. -/
  time : Option (Nat × Nat × Nat × Nat)
  /-- The offset in microseconds. -/
  offset : Option Int
  deriving Repr, DecidableEq

namespace Timestamp

/-- A text without one line feed at its end. -/
def withoutLastBreak (text : Text) : Text :=
  if text.getLast? = some '\n' then text.dropLast else text

/-- Whether a character is a space or a tab. -/
def isGap (c : Char) : Bool := c == ' ' || c == '\t'

/-- One or two digits in front of a text, and what follows them. -/
def shortNumber? (text : Text) : Option (Nat × Text) :=
  (Iso.digits? 2 text).orElse fun _ => Iso.digits? 1 text

/-- The offset at the end of a timestamp: nothing, the letter Z, or a sign with hours and perhaps
minutes. -/
def offset? (text : Text) : Option (Option Int) :=
  match text, text.dropWhile isGap with
  | [], _ => some none
  | _, ['Z'] => some (some 0)
  | _, sign :: text => do
    if sign ≠ '-' ∧ sign ≠ '+' then none
    let (hours, rest) ← shortNumber? text
    let minutes ← match rest with
      | [] => some 0
      | ':' :: rest =>
        match ← Iso.digits? 2 rest with
        | (minutes, []) => some minutes
        | _ => none
      | _ => none
    some (some (Offset.ofParts (sign == '-') hours minutes 0 0))
  | _, [] => none

/-- The microseconds of a fraction of a second, and what follows its digits. -/
def fraction (text : Text) : Nat × Text :=
  match text with
  | '.' :: text =>
    let digits := text.takeWhile Char.isDigit
    let kept := digits.take 6
    (Text.digitsValue kept * Nat.pow 10 (6 - kept.length), text.drop digits.length)
  | _ => (0, text)

/-- What follows a character in front of a text. -/
def behind? (c : Char) (text : Text) : Option Text := Text.after? [c] text

/-- What follows the mark between a day and a time. -/
def behindMark? (text : Text) : Option Text :=
  match text with
  | c :: rest =>
    if c = 't' ∨ c = 'T' then some rest
    else if isGap c then some (rest.dropWhile isGap)
    else none
  | [] => none

/-- Reads a timestamp. -/
def read? (text : Text) : Option Timestamp := do
  let (year, rest) ← Iso.digits? 4 (withoutLastBreak text)
  let (month, rest) ← shortNumber? (← behind? '-' rest)
  let (day, rest) ← shortNumber? (← behind? '-' rest)
  if rest = [] then some ⟨year, month, day, none, none⟩
  else
    let (hour, rest) ← shortNumber? (← behindMark? rest)
    let (minute, rest) ← Iso.digits? 2 (← behind? ':' rest)
    let (second, rest) ← Iso.digits? 2 (← behind? ':' rest)
    let (microsecond, rest) := fraction rest
    let offset ← offset? rest
    some ⟨year, month, day, some (hour, minute, second, microsecond), offset⟩

/-- Whether a plain scalar is a timestamp: a day alone has all its digits. -/
def isPlain (text : Text) : Bool :=
  match read? text with
  | none => false
  | some t => t.time.isSome || text.length == 10

/-- The day, or day and time, that a timestamp names. -/
def value (t : Timestamp) : Except CalendarError (Date ⊕ DateTime) := do
  match t.time with
  | none => .ok (.inl (← Date.of t.year t.month t.day))
  | some (hour, minute, second, microsecond) =>
    let offset ← match t.offset with
      | none => .ok none
      | some o => (Offset.of o).map some
    let date ← Date.of t.year t.month t.day
    let time ← Time.of hour minute second microsecond
    .ok (.inr ⟨date, time, offset⟩)

end Timestamp
end PageDirectives.Yaml
