import PageDirectives.Condition
import PageDirectives.Layout.Grid
/-!
Blocks that stay only if a condition holds on the data of their page.
-/
namespace PageDirectives.Layout

/-- The body of a block if its arguments are a condition that holds, and nothing otherwise. -/
def branchHandler : Handler := Handler.ofText fun o => do
  let holds ← Failure.ofNumber (Condition.holds o.args o.page)
  .ok (if holds then '\n' :: o.content ++ ['\n'] else [])

end PageDirectives.Layout
