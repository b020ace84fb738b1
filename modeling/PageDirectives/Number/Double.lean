import PageDirectives.Number.Error
/-!
Binary64 numbers as exact data. A finite number is a sign, a mantissa below 2^53 and a power of two;
rounding goes to the nearest such number, and from a midpoint to the even mantissa. Sums and
products are those of the exact values, rounded once.
-/
namespace PageDirectives

/-- A binary64 number. `finite s m e` is m · 2^e, negated if `s`. -/
inductive Double
  | nan
  | infinite (negative : Bool)
  | finite (negative : Bool) (mantissa : Nat) (exponent : Int)
  deriving Repr, DecidableEq, Inhabited

namespace Double

/-- The least exponent of a binary64 number. -/
def leastExponent : Int := -1074

/-- The greatest exponent of a binary64 number. -/
def greatestExponent : Int := 971

/-- Zero with a sign. -/
def signedZero (negative : Bool) : Double := finite negative 0 leastExponent

/-- The least mantissa of 53 bits. -/
def leastFull : Nat := Nat.pow 2 52

/-- A natural number times a power of two as a ratio of natural numbers. -/
def scale (n : Nat) (exponent : Int) : Nat × Nat :=
  if exponent < 0 then (n, Nat.pow 2 exponent.natAbs) else (n * Nat.pow 2 exponent.natAbs, 1)

/-- The nearest natural number to a ratio, from a midpoint the even one. -/
def roundRatio (numerator denominator : Nat) : Nat :=
  let quotient := numerator / denominator
  let twice := 2 * (numerator % denominator)
  if twice < denominator ∨ (twice = denominator ∧ quotient % 2 = 0) then quotient else quotient + 1

/-- The exponent at which the mantissa of a positive ratio has 53 bits, or the least exponent. -/
def exponentFor (numerator denominator : Nat) : Int :=
  let guess : Int := (numerator.log2 : Int) - denominator.log2 - 52
  let (n, d) := scale numerator (-guess)
  let exact := if n < denominator * d * leastFull then guess - 1 else guess
  max exact leastExponent

/-- The binary64 number nearest to a ratio of natural numbers. -/
def ofRatio (negative : Bool) (numerator denominator : Nat) : Double :=
  if numerator = 0 then signedZero negative
  else
    let exponent := exponentFor numerator denominator
    let (n, d) := scale numerator (-exponent)
    let mantissa := roundRatio n (denominator * d)
    let (mantissa, exponent) :=
      if mantissa = 2 * leastFull then (leastFull, exponent + 1) else (mantissa, exponent)
    if exponent > greatestExponent then infinite negative else finite negative mantissa exponent

/-- The binary64 number nearest to a whole number, unless that is too large. -/
def ofInt (n : Int) : Except NumberError Double :=
  match ofRatio (n < 0) n.natAbs 1 with
  | infinite _ => .error .tooLargeForFloat
  | x => .ok x

/-- The number 0. -/
def zero : Double := signedZero false

/-- The number 1. -/
def one : Double := ofRatio false 1 1

/-- The exact value of a finite number as a whole number over a power of two. -/
def ratio? : Double → Option (Int × Nat)
  | finite negative mantissa exponent =>
    let (n, d) := scale mantissa exponent
    some (if negative then -(n : Int) else n, d)
  | _ => none

/-- Whether a number is smaller than another; nothing is smaller or greater than NaN. -/
def lt : Double → Double → Bool
  | nan, _ => false
  | _, nan => false
  | infinite s, infinite t => s && !t
  | infinite s, _ => s
  | _, infinite t => !t
  | x, y =>
    match ratio? x, ratio? y with
    | some (a, b), some (c, d) => a * d < c * b
    | _, _ => false

/-- Whether two numbers are equal as numbers; zeros are equal whatever their signs. -/
def same : Double → Double → Bool
  | infinite s, infinite t => s == t
  | x, y =>
    match ratio? x, ratio? y with
    | some (a, b), some (c, d) => a * d == c * b
    | _, _ => false

/-- Whether a number is zero. -/
def isZero : Double → Bool
  | finite _ mantissa _ => mantissa == 0
  | _ => false

/-- The whole number that a number is, if it is one. -/
def toInt? (x : Double) : Option Int :=
  match ratio? x with
  | some (n, d) => if n % d = 0 then some (n / d) else none
  | none => none

/-- A number with the other sign. -/
def neg : Double → Double
  | nan => nan
  | infinite s => infinite !s
  | finite s m e => finite (!s) m e

/-- The sign of a number, true for minus. -/
def isNegative : Double → Bool
  | nan => false
  | infinite s => s
  | finite s _ _ => s

/-- The rounded sum of two numbers. -/
def add : Double → Double → Double
  | nan, _ => nan
  | _, nan => nan
  | infinite s, infinite t => if s = t then infinite s else nan
  | infinite s, _ => infinite s
  | _, infinite t => infinite t
  | x, y =>
    match ratio? x, ratio? y with
    | some (a, b), some (c, d) =>
      let sum := a * d + c * b
      if sum = 0 then signedZero (x.isNegative && y.isNegative)
      else ofRatio (sum < 0) sum.natAbs (b * d)
    | _, _ => nan

/-- The rounded product of two numbers. -/
def mul : Double → Double → Double
  | nan, _ => nan
  | _, nan => nan
  | x, y =>
    let negative := x.isNegative != y.isNegative
    match ratio? x, ratio? y with
    | some (a, b), some (c, d) => ofRatio negative (a.natAbs * c.natAbs) (b * d)
    | _, _ => if x.isZero || y.isZero then nan else infinite negative

end Double
end PageDirectives
