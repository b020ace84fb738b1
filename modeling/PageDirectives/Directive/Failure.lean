import PageDirectives.Value.Printer
/-!
Why a handler or a completion service gives no result, and the wording that reaches the log. A
failure may carry any value, and one that cannot be written leaves the failure without a wording.
-/
namespace PageDirectives

/-- Why a handler or a service gives no result. -/
inductive Failure
  | reported (what : Value)
  | absentKey (key : Value)
  | readOnlyPage
  | timedOut (what : Value)
  | notIterable (kind : Text)
  | notComparable (kind : Text)
  | notAwaitable
  | number (e : NumberError)
  deriving Repr

/-- The wording for a value of a kind that cannot be gone through. -/
def Value.notIterable (kind : Text) : Text := '\'' :: kind ++ "' object is not iterable"

/-- The wording of a failure, if what it carries can be written. A key is shown as a literal. -/
def Failure.message : Failure → Except NumberError Text
  | reported what => what.display
  | absentKey key => key.literal
  | readOnlyPage => .ok "'mappingproxy' object does not support item assignment"
  | timedOut what => what.display
  | notIterable kind => .ok (Value.notIterable kind)
  | notComparable kind => .ok ("'<=' not supported between instances of '" ++ kind ++ "' and 'int'")
  | notAwaitable => .ok "An asyncio.Future, a coroutine or an awaitable is required"
  | number e => .ok e.message

/-- A number error as a failure. -/
def Failure.ofNumber {α : Type} (x : Except NumberError α) : Except Failure α :=
  x.mapError Failure.number

end PageDirectives
