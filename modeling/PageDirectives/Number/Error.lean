import PageDirectives.Text.Basic
/-!
What can go wrong between numbers and their decimal texts. Whole numbers are read and written with
at most 4300 digits, and only those below the largest binary64 number become one.
-/
namespace PageDirectives

/-- The most decimal digits with which a whole number is read or written. -/
def digitLimit : Nat := 4300

/-- Why a number is not read, written or converted. -/
inductive NumberError
  | tooLongToWrite
  | tooLongToRead (digits : Nat)
  | tooLargeForFloat
  | notAnInteger (base : Nat) (literal : Text)
  | notAFloat (literal : Text)
  deriving Repr, DecidableEq

namespace NumberError

/-- The wording of a number error. A literal that is no whole number is shown up to 200
characters. -/
def message : NumberError → Text
  | tooLongToWrite =>
    "Exceeds the limit (4300 digits) for integer string conversion; " ++
      "use sys.set_int_max_str_digits() to increase the limit"
  | tooLongToRead digits =>
    "Exceeds the limit (4300 digits) for integer string conversion: value has " ++
      toString digits ++
      " digits; use sys.set_int_max_str_digits() to increase the limit"
  | tooLargeForFloat => "int too large to convert to float"
  | notAnInteger base literal =>
    "invalid literal for int() with base " ++ toString base ++ ": " ++ literal.take 200
  | notAFloat literal => "could not convert string to float: " ++ literal

end NumberError
end PageDirectives
