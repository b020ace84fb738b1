/-!
Sets of code points written as the sorted list of the places where membership changes.
-/
namespace PageDirectives.Text

/-- Whether a code point lies in the set that a table of toggles describes. -/
def Toggles.has (toggles : List Nat) (code : Nat) : Bool :=
  toggles.countP (· ≤ code) % 2 == 1

end PageDirectives.Text
