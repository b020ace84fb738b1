import PageDirectives.Number.Integer
/-!
Days of the proleptic Gregorian calendar from the year 1 to the year 9999, times of day to the
microsecond, and the reasons why numbers do not name one.
-/
namespace PageDirectives

/-- A day by its year, month and day of the month. -/
structure Date where
  year : Nat
  month : Nat
  day : Nat
  deriving Repr, DecidableEq

/-- A time of day. -/
structure Time where
  hour : Nat
  minute : Nat
  second : Nat
  microsecond : Nat
  deriving Repr, DecidableEq

/-- A distance from universal time in microseconds, positive to the east. -/
structure Offset where
  microseconds : Int
  deriving Repr, DecidableEq

/-- A day and a time of day, with a distance from universal time if one is given. -/
structure DateTime where
  date : Date
  time : Time
  offset : Option Offset
  deriving Repr, DecidableEq

/-- Why numbers do not name a day, a time or an offset. -/
inductive CalendarError
  | year (given : Nat)
  | month
  | day
  | hour
  | minute
  | second
  | offset (given : Offset)
  deriving Repr, DecidableEq

/-- Whether a year has a leap day. -/
def Date.isLeap (year : Nat) : Bool := year % 4 == 0 && (year % 100 != 0 || year % 400 == 0)

/-- The length of a month. -/
def Date.daysIn (year month : Nat) : Nat :=
  if month = 2 then if isLeap year then 29 else 28
  else if month ∈ [4, 6, 9, 11] then 30 else 31

/-- The day that numbers name. -/
def Date.of (year month day : Nat) : Except CalendarError Date :=
  if year < 1 ∨ 9999 < year then .error (.year year)
  else if month < 1 ∨ 12 < month then .error .month
  else if day < 1 ∨ daysIn year month < day then .error .day
  else .ok ⟨year, month, day⟩

/-- The time of day that numbers name; a microsecond below a million is given. -/
def Time.of (hour minute second microsecond : Nat) : Except CalendarError Time :=
  if 23 < hour then .error .hour
  else if 59 < minute then .error .minute
  else if 59 < second then .error .second
  else .ok ⟨hour, minute, second, microsecond⟩

namespace Offset

/-- The microseconds of one day. -/
def perDay : Int := 86400000000

/-- An offset, which has to be shorter than a day. -/
def of (microseconds : Int) : Except CalendarError Offset :=
  if -perDay < microseconds ∧ microseconds < perDay then .ok ⟨microseconds⟩
  else .error (.offset ⟨microseconds⟩)

/-- The offset of hours, minutes and seconds. -/
def ofParts (negative : Bool) (hours minutes seconds microseconds : Nat) : Int :=
  Integer.signed negative (((hours * 60 + minutes) * 60 + seconds) * 1000000 + microseconds)

end Offset

/-- A number in decimal with zeros before it up to a width. -/
def padded (width n : Nat) : Text :=
  let digits := Integer.digitsOf n
  List.replicate (width - digits.length) '0' ++ digits

namespace Date

/-- A day as year, month and day of fixed widths. -/
def iso (d : Date) : Text :=
  padded 4 d.year ++ '-' :: padded 2 d.month ++ '-' :: padded 2 d.day

/-- A day as a literal. -/
def literal (d : Date) : Text :=
  "datetime.date(" ++ Text.join ", " ([d.year, d.month, d.day].map Integer.digitsOf) ++ ")"

end Date

/-- A time of day as hours, minutes and seconds, and microseconds if there are any. -/
def Time.iso (t : Time) : Text :=
  padded 2 t.hour ++ ':' :: padded 2 t.minute ++ ':' :: padded 2 t.second ++
    if t.microsecond = 0 then [] else '.' :: padded 6 t.microsecond

namespace Offset

/-- An offset as sign, hours and minutes, and seconds if there are any. -/
def iso (o : Offset) : Text :=
  let n := o.microseconds.natAbs
  let seconds := n / 1000000
  (if o.microseconds < 0 then '-' else '+') ::
    padded 2 (seconds / 3600) ++ ':' :: padded 2 (seconds / 60 % 60) ++
    if n % 1000000 = 0 then
      if seconds % 60 = 0 then [] else ':' :: padded 2 (seconds % 60)
    else ':' :: padded 2 (seconds % 60) ++ '.' :: padded 6 (n % 1000000)

/-- A span of time as a literal: days, then seconds and microseconds that are not negative. -/
def spanLiteral (o : Offset) : Text :=
  let days := Int.fdiv o.microseconds perDay
  let rest := (Int.fmod o.microseconds perDay).toNat
  let field (name : Text) (n : Int) : List Text :=
    if n = 0 then [] else [name ++ '=' :: Integer.decimal n]
  let fields := field "days" days ++ field "seconds" (rest / 1000000 : Nat) ++
    field "microseconds" (rest % 1000000 : Nat)
  "datetime.timedelta(" ++ (if fields = [] then ['0'] else Text.join ", " fields) ++ ")"

/-- An offset as a literal. -/
def literal (o : Offset) : Text :=
  if o.microseconds = 0 then "datetime.timezone.utc"
  else "datetime.timezone(" ++ spanLiteral o ++ ")"

end Offset

namespace DateTime

/-- A day and time with a mark between them, and the offset behind. -/
def isoWith (mark : Char) (t : DateTime) : Text :=
  t.date.iso ++ mark :: t.time.iso ++ (t.offset.map Offset.iso).getD []

/-- A day and time as a literal; seconds are left out if they and the microseconds are zero. -/
def literal (t : DateTime) : Text :=
  let last := if t.time.microsecond ≠ 0 then [t.time.second, t.time.microsecond]
    else if t.time.second ≠ 0 then [t.time.second] else []
  let numbers := [t.date.year, t.date.month, t.date.day, t.time.hour, t.time.minute] ++ last
  let zone := match t.offset with
    | none => []
    | some o => ["tzinfo=" ++ o.literal]
  "datetime.datetime(" ++ Text.join ", " (numbers.map Integer.digitsOf ++ zone) ++ ")"

end DateTime

namespace CalendarError

/-- The wording of a calendar error. -/
def message : CalendarError → Text
  | year given => "year " ++ Integer.digitsOf given ++ " is out of range"
  | month => "month must be in 1..12"
  | day => "day is out of range for month"
  | hour => "hour must be in 0..23"
  | minute => "minute must be in 0..59"
  | second => "second must be in 0..59"
  | offset given =>
    "offset must be a timedelta strictly between -timedelta(hours=24) and " ++
      "timedelta(hours=24), not " ++ given.spanLiteral ++ "."

end CalendarError
end PageDirectives
