import PageDirectives.Number.Double
import PageDirectives.Number.Integer
/-!
The shortest decimal text of a binary64 number: the fewest significant digits that read back as the
number, and of those the nearest to its value. Numbers from 10^-4 up to 10^16 are written
positionally with at least one decimal place, all others with an exponent of two digits or more.
-/
namespace PageDirectives

/-- A decimal number `digits` · 10^`exponent`. -/
structure Decimal where
  digits : Nat
  exponent : Int
  deriving Repr, DecidableEq

/-- How a decimal number is laid out as text. -/
structure DecimalLayout where
  /-- Numbers with their point left of this place have an exponent. -/
  leastPoint : Int
  /-- Numbers with their point right of this place have an exponent. -/
  greatestPoint : Int
  exponentWidth : Nat
  nan : Text
  infinity : Text

/-- The layout of numbers in page data and messages. -/
def Double.layout : DecimalLayout := ⟨-3, 16, 2, "nan", "inf"⟩

namespace Shortest

/-- The ends of the interval of numbers that round to m · 2^q, four times their value over 2^q. -/
def interval (mantissa : Nat) (exponent : Int) : Nat × Nat :=
  if mantissa = Double.leastFull ∧ exponent > Double.leastExponent then
    (4 * mantissa - 1, 4 * mantissa + 2)
  else (4 * mantissa - 2, 4 * mantissa + 2)

/-- Whether a ratio lies in the interval of numbers that round to m · 2^q. -/
def inside (mantissa : Nat) (exponent : Int) (numerator denominator : Nat) : Bool :=
  let (low, high) := interval mantissa exponent
  let (l, d) := Double.scale low (exponent - 2)
  let (h, _) := Double.scale high (exponent - 2)
  if mantissa % 2 = 0 then l * denominator ≤ numerator * d && numerator * d ≤ h * denominator
  else l * denominator < numerator * d && numerator * d < h * denominator

/-- A natural number times a power of ten as a ratio. -/
def tens (n : Nat) (exponent : Int) : Nat × Nat :=
  if exponent < 0 then (n, Nat.pow 10 exponent.natAbs) else (n * Nat.pow 10 exponent.natAbs, 1)

/-- The place of the first digit of a positive ratio: the ratio is below ten to this power and not
below the power before. -/
def place (numerator denominator : Nat) : Int :=
  if denominator ≤ numerator then (Nat.toDigits 10 (numerator / denominator)).length
  else
    let more := (Nat.toDigits 10 (denominator / numerator)).length
    if denominator ≤ numerator * Nat.pow 10 (more - 1) then 1 - ((more : Int) - 1)
    else 1 - (more : Int)

/-- The better of the two neighbours of m · 2^q on the grid of multiples of a power of ten, if one
of them rounds to it. -/
def onGrid (mantissa : Nat) (exponent : Int) (step : Int) : Option Nat :=
  let (n, d) := Double.scale mantissa exponent
  let (t, u) := tens 1 step
  let below := n * u / (d * t)
  let above := below + 1
  let hits (k : Nat) : Bool :=
    let (a, b) := tens k step
    0 < k && inside mantissa exponent a b
  -- twice the value against the sum of both neighbours
  let middle := compare (2 * n * u) ((below + above) * (d * t))
  let nearer := match middle with
    | .lt => below
    | .gt => above
    | .eq => if below % 2 = 0 then below else above
  let farther := if nearer = below then above else below
  if hits nearer then some nearer else if hits farther then some farther else none

/-- The shortest decimal number that reads back as m · 2^q, with at least `size` digits. -/
def search (mantissa : Nat) (exponent : Int) (first : Int) (size : Nat) : (fuel : Nat) → Decimal
  | 0 => ⟨0, 0⟩
  | fuel + 1 =>
    match onGrid mantissa exponent (first - size) with
    | some k => ⟨k, first - size⟩
    | none => search mantissa exponent first (size + 1) fuel

/-- The shortest decimal number that reads back as the positive number m · 2^q. Seventeen digits
are always enough. -/
def decimal (mantissa : Nat) (exponent : Int) : Decimal :=
  let (n, d) := Double.scale mantissa exponent
  search mantissa exponent (place n d) 1 17

/-- The digits of a decimal number without zeros at their end, and the place of its point counted
from its first digit. -/
def split (x : Decimal) : Text × Int :=
  let digits := Integer.digitsOf x.digits
  ((digits.reverse.dropWhile (· == '0')).reverse, digits.length + x.exponent)

/-- A positive number in a layout, from its digits and the place of its point. -/
def write (layout : DecimalLayout) (digits : Text) (point : Int) : Text :=
  if layout.leastPoint ≤ point ∧ point ≤ layout.greatestPoint then
    if point ≤ 0 then '0' :: '.' :: List.replicate point.natAbs '0' ++ digits
    else
      let whole := digits.take point.toNat
      let rest := digits.drop point.toNat
      whole ++ List.replicate (point.toNat - whole.length) '0' ++
        '.' :: (if rest = [] then ['0'] else rest)
  else
    let power := Integer.digitsOf (point - 1).natAbs
    digits.take 1 ++ (if digits.length ≤ 1 then [] else '.' :: digits.drop 1) ++
      'e' :: (if point - 1 < 0 then '-' else '+') ::
        List.replicate (layout.exponentWidth - power.length) '0' ++ power

end Shortest

/-- The decimal text of a binary64 number. -/
def Double.write : Double → Text
  | nan => layout.nan
  | infinite negative => (if negative then ['-'] else []) ++ layout.infinity
  | finite negative mantissa exponent =>
    (if negative then ['-'] else []) ++
      if mantissa = 0 then ['0', '.', '0']
      else
        let (digits, point) := Shortest.split (Shortest.decimal mantissa exponent)
        Shortest.write layout digits point

end PageDirectives
