import PageDirectives.Layout.Grid
import PageDirectives.Layout.Icon
/-!
Spacers, notes on one line, and callouts that may fold.
-/
namespace PageDirectives.Layout

/-- The sizes of spacers by name. -/
def spaceSizes : List (Text × Text) :=
  [("small", "2"), ("medium", "4"), ("large", "6"), ("xlarge", "8")]

/-- A spacer; a size that is not known counts as medium. -/
def spaceHandler : Handler := Handler.ofText fun o =>
  let known := spaceSizes.find? (·.1 == Text.lower (Text.trim o.value))
  let size : Text := (known.map (·.2)).getD ['4']
  .ok ("<div class=\"space-" ++ size ++ "\"></div>\n")

/-- Notes on one line by name, with the element and the class of each. -/
def lineNotes : List (Text × Text × Text) :=
  [("muted", "p", "muted"), ("subtle", "p", "subtle"), ("note", "aside", "note"),
    ("error", "div", "alert error"), ("alert", "div", "alert"),
    ("warning", "div", "alert warning"), ("success", "div", "alert success")]

/-- A note on one line. -/
def lineNoteHandler (element cssClass : Text) : Handler := Handler.ofText fun o =>
  .ok ('<' :: element ++ " class=\"" ++ cssClass ++ "\">" ++ o.value ++ "</" ++ element ++ ">")

/-- How a callout folds. -/
inductive Fold
  | unfolding
  | opened
  | closed
  deriving Repr, DecidableEq

/-- The fold and the title of a callout. A marker with nothing behind it is a title of its own. -/
def calloutHeader? (args : Text) : Option (Fold × Text) :=
  match Text.trim args with
  | [] => none
  | [c] => some (.unfolding, [c])
  | '+' :: rest => some (.opened, Text.trimStart rest)
  | '-' :: rest => some (.closed, Text.trimStart rest)
  | title => some (.unfolding, title)

/-- A text with its first character in upper case. -/
def capitalised : Text → Text
  | [] => []
  | c :: rest => Text.upper [c] ++ rest

/-- The icon and the title of a callout. -/
def calloutTitle (kind title : Text) : Text :=
  "<div class=\"callout-title-icon\">" ++ Icon.markup kind ++
    "</div>\n<div class=\"callout-title-inner\">" ++ title ++ "</div>\n"

/-- A callout. -/
def callout (fold : Fold) (kind title content : Text) : Text :=
  let body := "<div class=\"callout-content\">" ++ content ++ "</div>\n"
  let start (element : Text) : Text :=
    '<' :: element ++ " class=\"callout\" data-callout=\"" ++ kind ++ "\""
  let folded (openMark : Text) : Text :=
    start "details" ++ openMark ++ ">\n<summary class=\"callout-title\">\n" ++
      calloutTitle kind title ++ "</summary>\n" ++ body ++ "</details>"
  match fold with
  | .opened => folded " open"
  | .closed => folded []
  | .unfolding =>
    start "div" ++ ">\n<div class=\"callout-title\">\n" ++ calloutTitle kind title ++
      "</div>\n" ++ body ++ "</div>"

/-- A callout, or the block as it is if its arguments name no kind. -/
def calloutHandler : Handler := Handler.ofText fun o =>
  match calloutHeader? o.args with
  | none => .ok o.raw
  | some (fold, title) =>
    .ok (callout fold (Text.lower title) (capitalised title) (Text.trim o.content))

end PageDirectives.Layout
