import PageDirectives.Layout.Grid
import PageDirectives.Text.Case
/-!
Blocks that put markup around a whole body: containers, cards, testimonials and heroes.
-/
namespace PageDirectives.Layout

/-- A body between an opening and a closing tag, with blank lines around it. -/
def wrap (opening closing body : Text) : Text := opening ++ '\n' :: apart body ++ closing ++ ['\n']

/-- The body between an opening and a closing tag. -/
def wrapperHandler (opening closing : Text) : Handler :=
  Handler.ofText fun o => .ok (wrap opening closing o.content)

/-- A body in a division of a class. -/
def divisionHandler (cssClass : Text) : Handler :=
  wrapperHandler ("<div class=\"" ++ cssClass ++ "\">") "</div>"

/-- The containers by name, with the class of each. -/
def containers : List (Text × Text) :=
  [("small", "container-small"), ("accent", "container-accent"), ("feature", "container-feature"),
    ("center", "text-center"), ("card", "card")]

/-- A testimonial. -/
def testimonialHandler : Handler :=
  wrapperHandler "<blockquote class=\"testimonial\">" "</blockquote>"

/-- The ways to align a hero. -/
def alignments : List Text := ["center", "left", "right"]

/-- The classes of a hero: its arguments may align it. -/
def heroClasses (args : Text) : Text :=
  let align := Text.lower (Text.trim args)
  if alignments.contains align then "container-hero text-" ++ align
  else "container-hero"

/-- A hero. -/
def heroHandler : Handler := Handler.ofText fun o =>
  .ok (wrap ("<div class=\"" ++ heroClasses o.args ++ "\">") "</div>" o.content)

end PageDirectives.Layout
