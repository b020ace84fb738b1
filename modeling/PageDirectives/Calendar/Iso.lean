import PageDirectives.Calendar.Date
/-!
Reading ISO 8601 days and times: a day, one character, a clock reading and an optional offset.
Digits are ASCII. A clock reading may end behind any of its fields, colons may be left out together,
a comma may stand for the point, and digits of the fraction past the sixth are dropped.
-/
namespace PageDirectives.Iso

/-- A number of exactly so many digits at the front of a text. -/
def digits? (count : Nat) (text : Text) : Option (Nat × Text) :=
  let word := text.take count
  if word.length = count ∧ word.all Char.isDigit then
    some (Text.digitsValue word, text.drop count)
  else none

/-- What a clock reading says, and whether it reaches the end of the text. -/
structure Clock where
  hour : Nat
  minute : Nat
  second : Nat
  microsecond : Nat
  complete : Bool

/-- Whether a text ends here: nothing is left, or a NUL. -/
def endsHere : Text → Bool
  | [] => true
  | c :: _ => c == Char.ofNat 0

/-- The digits of a fraction of a second in microseconds, and whether nothing follows them. The
first six characters, or all if there are fewer, have to be digits. -/
def fraction? (text : Text) : Option (Nat × Bool) :=
  let kept := text.take 6
  if text ≠ [] ∧ kept.all Char.isDigit then
    some (Text.digitsValue kept * Nat.pow 10 (6 - kept.length),
      endsHere ((text.drop 6).dropWhile Char.isDigit))
  else none

/-- How a clock reading goes on behind one of its fields. -/
inductive Onward
  | stop (complete : Bool)
  | field (rest : Text)
  | fraction (rest : Text)

/-- What follows a field: the end, one last ASCII character that is not read, the next field behind
a colon or, in a text without colons, at once, or the fraction behind a point or a comma. -/
def onward? (colons : Bool) : Text → Option Onward
  | [] => some (.stop true)
  | [c] => if c.toNat < 128 then some (.stop (endsHere [c])) else none
  | c :: rest =>
    if colons && c == ':' then some (.field rest)
    else if c == '.' || c == ',' then some (.fraction rest)
    else if colons then none
    else some (.field (c :: rest))

/-- Reads hours, then minutes and seconds, and a fraction at the end, as far as they are there. -/
def clock? (text : Text) : Option Clock := do
  let (hour, rest) ← digits? 2 text
  let colons := rest.head? == some ':'
  match ← onward? colons rest with
  | .stop complete => some ⟨hour, 0, 0, 0, complete⟩
  | .fraction rest =>
    let (microsecond, complete) ← fraction? rest
    some ⟨hour, 0, 0, microsecond, complete⟩
  | .field rest =>
    let (minute, rest) ← digits? 2 rest
    match ← onward? colons rest with
    | .stop complete => some ⟨hour, minute, 0, 0, complete⟩
    | .fraction rest =>
      let (microsecond, complete) ← fraction? rest
      some ⟨hour, minute, 0, microsecond, complete⟩
    | .field rest =>
      let (second, rest) ← digits? 2 rest
      match ← onward? colons rest with
      | .stop complete => some ⟨hour, minute, second, 0, complete⟩
      | .fraction rest | .field rest =>
        let (microsecond, complete) ← fraction? rest
        some ⟨hour, minute, second, microsecond, complete⟩

/-- Whether a character begins an offset. -/
def beginsOffset (c : Char) : Bool := c == '+' || c == '-' || c == 'Z'

/-- The offset that a text behind a time writes: nothing, `Z`, or a signed clock reading. -/
def offset? : Text → Option (Option Int)
  | [] => some none
  | c :: text =>
    if c = 'Z' then if endsHere text then some (some 0) else none
    else do
      let clock ← clock? text
      if clock.complete then
        some (some
          (Offset.ofParts (c = '-') clock.hour clock.minute clock.second clock.microsecond))
      else none

/-- A day at the front of a text. -/
def date? (text : Text) : Option (Date × Text) := do
  let (year, rest) ← digits? 4 text
  let rest ← Text.after? ['-'] rest
  let (month, rest) ← digits? 2 rest
  let rest ← Text.after? ['-'] rest
  let (day, rest) ← digits? 2 rest
  let date ← (Date.of year month day).toOption
  some (date, rest)

/-- A day and time that fills a text. One character that is not read may stand before an offset. -/
def dateTime? (text : Text) : Option DateTime := do
  let (date, rest) ← date? text
  let zone := (rest.drop 1).dropWhile (!beginsOffset ·)
  let clock ← clock? ((rest.drop 1).takeWhile (!beginsOffset ·))
  let time ← (Time.of clock.hour clock.minute clock.second clock.microsecond).toOption
  match ← offset? zone with
  | none => if clock.complete then some ⟨date, time, none⟩ else none
  | some microseconds =>
    let offset ← (Offset.of microseconds).toOption
    some ⟨date, time, some offset⟩

end PageDirectives.Iso
