import PageDirectives.Directive.Argument
import PageDirectives.Directive.Failure
import PageDirectives.Directive.Registry
import PageDirectives.Directive.Section
/-!
Blocks with one cell for each of their sections: columns, grids and cards. A row is twelve units
wide, and equal columns share it.
-/
namespace PageDirectives

/-- A handler of this library that always answers with a text or fails. -/
def Handler.ofText (f : Directive.Occurrence → Except Failure Text) : Handler :=
  ⟨.builtIn, fun o => (f o).map Value.text⟩

namespace Layout

/-- The width of a row in units. -/
def rowWidth : Int := 12

/-- The units of one of so many equal columns, at least one. -/
def span (count : Int) : Int := max 1 (Int.fdiv rowWidth (max 1 count))

/-- A column of so many units. -/
def column (units : Int) (content : Text) : Text :=
  "  <div class=\"col-12 md:col-" ++ Integer.decimal units ++ "\">\n" ++ content ++ "  </div>\n"

/-- Text that stays text of its own between markup: blank lines around it. -/
def apart (text : Text) : Text := '\n' :: text ++ ['\n', '\n']

/-- Cells in a row that may wrap. -/
def row (cells : List Text) : Text :=
  "<div class=\"grid gap-4\">\n" ++ cells.flatten ++ "</div>\n"

/-- Sections in columns of their own widths. -/
def columns (sections : List Text) (spans : List Int) : Text :=
  row ((sections.zip spans).map fun (s, units) => column units (apart s))

/-- Equal columns, two unless the arguments begin with another count. -/
def columnsHandler (delimiter : Text) : Handler := Handler.ofText fun o => do
  let count ← Failure.ofNumber (Argument.count o.args 2)
  let sections := Section.ofText delimiter o.content
  .ok (columns sections (sections.map fun _ => span count))

/-- The maximal runs of digits in a text. -/
def digitRuns : Text → List Text
  | [] => []
  | c :: text =>
    if Text.isDigit c then
      (c :: text.takeWhile Text.isDigit) :: digitRuns (text.dropWhile Text.isDigit)
    else digitRuns text
termination_by text => text.length
decreasing_by
  · have := (List.dropWhile_sublist Text.isDigit (l := text)).length_le
    simp; omega
  · simp

/-- The positive numbers in a text. -/
def sizes (text : Text) : Except NumberError (List Int) := do
  let numbers ← (digitRuns text).mapM Integer.ofDigits
  .ok ((numbers.filter (· != 0)).map Int.ofNat)

/-- Columns of the widths given, all others sharing the row equally. -/
def splitHandler (delimiter : Text) : Handler := Handler.ofText fun o => do
  let sections := Section.ofText delimiter o.content
  let given ← Failure.ofNumber (sizes o.args)
  let otherwise := span sections.length
  .ok (columns sections (given ++ List.replicate (sections.length - given.length) otherwise))

/-- As many equal columns as there are sections. -/
def stackHandler (delimiter : Text) : Handler := Handler.ofText fun o =>
  let sections := Section.ofText delimiter o.content
  .ok (columns sections (sections.map fun _ => span sections.length))

/-- A fixed grid, three to a row unless the arguments begin with another count. -/
def gridHandler (delimiter : Text) : Handler := Handler.ofText fun o => do
  let count ← Failure.ofNumber (Argument.count o.args 3)
  let cells := (Section.ofText delimiter o.content).map fun item =>
    "  <div class=\"sm:row\">\n" ++ apart item ++ "  </div>\n"
  let number ← Failure.ofNumber (Integer.write count)
  .ok ("<div class=\"grid-" ++ number ++ "\">\n" ++ cells.flatten ++ "</div>\n")

/-- What a loop repeats if its block says nothing. -/
def defaultItem : Text :=
  "<h3>\x7b\x7b item.title \x7d\x7d</h3>\n<p>\x7b\x7b item.description \x7d\x7d</p>"

/-- A loop over a collection, for the template engine that comes later. -/
def collectionHandler : Handler := Handler.ofText fun o =>
  match Text.words o.args with
  | [] => .ok o.raw
  | collection :: rest => do
    let count ← Failure.ofNumber (Argument.count (rest.headD []) 3)
    .ok ("<div class=\"grid\">\n\x7b% for item in " ++ collection ++
      " %\x7d\n  <div class=\"sm:row col-" ++ Integer.decimal (span count) ++ "\">\n" ++
      Text.orElse (some o.content) defaultItem ++ "\n  </div>\n\x7b% endfor %\x7d\n</div>")

/-- Cards in equal columns, three unless the arguments begin with another count. -/
def cardsHandler (delimiter : Text) : Handler := Handler.ofText fun o => do
  let count ← Failure.ofNumber (Argument.count o.args 3)
  .ok (row ((Section.ofText delimiter o.content).map fun card =>
    column (span count) ("    <div class=\"card\">\n" ++ apart card ++ "    </div>\n")))

end Layout
end PageDirectives
