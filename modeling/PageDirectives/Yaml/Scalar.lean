import PageDirectives.Number.Decimal
import PageDirectives.Text.Base64
import PageDirectives.Text.Case
import PageDirectives.Value.Basic
import PageDirectives.Yaml.Kind
/-!
The values of scalars by their kind. Low lines in numbers do not count; the first characters of a
whole number tell its base; numbers between colons are digits in base sixty.
-/
namespace PageDirectives.Yaml.Scalar

/-- A number without low lines, and its sign, true for minus. -/
def signed (text : Text) : Except YamlError (Bool × Text) :=
  match text.filter (· != '_') with
  | [] => .error .emptyNumber
  | '-' :: body => .ok (true, body)
  | '+' :: body => .ok (false, body)
  | body => .ok (false, body)

/-- The whole number that numbers are in base sixty, the first one most significant. -/
def ofSixtieths (numbers : List Int) : Int := numbers.foldl (fun n d => 60 * n + d) 0

/-- A whole number without its sign. -/
def unsignedInteger (body : Text) : Except YamlError Int :=
  match body with
  | [] => .error .emptyNumber
  | ['0'] => .ok 0
  | '0' :: 'b' :: digits => (Integer.readIn 2 digits).mapError .number
  | '0' :: 'x' :: digits => (Integer.readIn 16 digits).mapError .number
  | '0' :: _ => (Integer.readIn 8 body).mapError .number
  | _ =>
    if ':' ∈ body then
      (((Text.splitOn ':' body).mapM Integer.read).map ofSixtieths).mapError .number
    else (Integer.read body).mapError .number

/-- The value of a whole number. -/
def integer (text : Text) : Except YamlError Int := do
  let (negative, body) ← signed text
  let n ← unsignedInteger body
  .ok (if negative then -n else n)

/-- The sum of numbers in base sixty, from the last one on, each product and sum rounded. -/
def sumSixtieths : (base : Nat) → (sum : Double) → (digits : List Double) →
    Except NumberError Double
  | _, sum, [] => .ok sum
  | base, sum, d :: digits => do
    sumSixtieths (60 * base) (sum.add (d.mul (← Double.ofInt base))) digits

/-- A float without its sign. -/
def unsignedFloat (body : Text) : Except YamlError Double :=
  if body = ".inf" then .ok (.infinite false)
  else if body = ".nan" then .ok .nan
  else if ':' ∈ body then
    (do
      let digits ← (Text.splitOn ':' body).mapM Double.read
      sumSixtieths 1 Double.zero digits.reverse : Except NumberError Double).mapError .number
  else (Double.read body).mapError .number

/-- The value of a float. -/
def float (text : Text) : Except YamlError Double := do
  let (negative, body) ← signed (Text.lower text)
  let x ← unsignedFloat body
  .ok (if negative then x.neg else x)

/-- The value of a word for truth or falsehood. -/
def truth (text : Text) : Except YamlError Bool :=
  let word := Text.lower text
  match Kind.truthWords.lookup (String.ofList word) with
  | some b => .ok b
  | none => .error (.unknownTruth word)

/-- The bytes that base64 in ASCII stands for. -/
def binary (text : Text) : Except YamlError (List UInt8) :=
  if text.all (·.toNat < 128) then
    match Base64.decode? text with
    | some bytes => .ok bytes
    | none => .error .malformed
  else .error .malformed

/-- The day, or day and time, of a timestamp. -/
def timestamp (text : Text) : Except YamlError Value :=
  match Timestamp.read? text with
  | none => .error .notATimestamp
  | some t =>
    match t.value with
    | .error e => .error (.calendar e)
    | .ok (.inl d) => .ok (.date d)
    | .ok (.inr t) => .ok (.dateTime t)

/-- The value of a scalar of a kind. -/
def value (kind : Kind) (text : Text) : Except YamlError Value :=
  match kind with
  | .null => .ok .null
  | .truth => (truth text).map .bool
  | .integer => (integer text).map .int
  | .float => (float text).map .float
  | .binary => (binary text).map .bytes
  | .timestamp => timestamp text
  | .string => .ok (.text text)
  | _ => .error .malformed

end PageDirectives.Yaml.Scalar
