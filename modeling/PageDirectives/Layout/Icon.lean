import PageDirectives.Text.Case
/-!
The icons of callouts: line drawings on a grid of 24 units, one for each kind of callout. Other
names stand for kinds, and a name that is not known has the icon of a note.
-/
namespace PageDirectives.Icon

/-- One shape of a drawing: its element and its attributes in order. -/
structure Shape where
  element : Text
  attributes : List (Text × Text)

/-- A drawing for a kind of callout. -/
structure Drawing where
  kind : Text
  name : Text
  shapes : List Shape

/-- A shape that follows a path. -/
def path (d : Text) : Shape := ⟨"path", [("d", d)]⟩

/-- The drawings by the kinds of callouts. -/
def drawings : List Drawing :=
  [
    ⟨"abstract", "clipboard-list", [
      ⟨"rect", [("width", "8"), ("height", "4"), ("x", "8"), ("y", "2"), ("rx", "1"), ("ry", "1")]⟩,
      path "M16 4h2a2 2 0 0 1 2 2v14a2 2 0 0 1-2 2H6a2 2 0 0 1-2-2V6a2 2 0 0 1 2-2h2",
      path "M12 11h4",
      path "M12 16h4",
      path "M8 11h.01",
      path "M8 16h.01"]⟩,
    ⟨"bug", "bug", [
      path "m8 2 1.88 1.88",
      path "M14.12 3.88 16 2",
      path "M9 7.13v-1a3.003 3.003 0 1 1 6 0v1",
      path "M12 20c-3.3 0-6-2.7-6-6v-3a4 4 0 0 1 4-4h4a4 4 0 0 1 4 4v3c0 3.3-2.7 6-6 6",
      path "M12 20v-9",
      path "M6.53 9C4.6 8.8 3 7.1 3 5",
      path "M6 13H2",
      path "M3 21c0-2.1 1.7-3.9 3.8-4",
      path "M20.97 5c0 2.1-1.6 3.8-3.5 4",
      path "M22 13h-4",
      path "M17.2 17c2.1.1 3.8 1.9 3.8 4"]⟩,
    ⟨"danger", "zap", [
      ⟨"polygon", [("points", "13 2 3 14 12 14 11 22 21 10 12 10 13 2")]⟩]⟩,
    ⟨"example", "list", [
      ⟨"line", [("x1", "8"), ("x2", "21"), ("y1", "6"), ("y2", "6")]⟩,
      ⟨"line", [("x1", "8"), ("x2", "21"), ("y1", "12"), ("y2", "12")]⟩,
      ⟨"line", [("x1", "8"), ("x2", "21"), ("y1", "18"), ("y2", "18")]⟩,
      ⟨"line", [("x1", "3"), ("x2", "3.01"), ("y1", "6"), ("y2", "6")]⟩,
      ⟨"line", [("x1", "3"), ("x2", "3.01"), ("y1", "12"), ("y2", "12")]⟩,
      ⟨"line", [("x1", "3"), ("x2", "3.01"), ("y1", "18"), ("y2", "18")]⟩]⟩,
    ⟨"failure", "x", [
      path "M18 6 6 18",
      path "m6 6 12 12"]⟩,
    ⟨"info", "info", [
      ⟨"circle", [("cx", "12"), ("cy", "12"), ("r", "10")]⟩,
      path "M12 16v-4",
      path "M12 8h.01"]⟩,
    ⟨"note", "pencil", [
      path "M17 3a2.85 2.83 0 1 1 4 4L7.5 20.5 2 22l1.5-5.5Z",
      path "m15 5 4 4"]⟩,
    ⟨"question", "help-circle", [
      ⟨"circle", [("cx", "12"), ("cy", "12"), ("r", "10")]⟩,
      path "M9.09 9a3 3 0 0 1 5.83 1c0 2-3 3-3 3",
      path "M12 17h.01"]⟩,
    ⟨"quote", "quote", [
      path <| "M3 21c3 0 7-1 7-8V5c0-1.25-.756-2.017-2-2H4c-1.25 0-2 .75-2 1.972V11c0 1.25.75 " ++
        "2 2 2 1 0 1 0 1 1v1c0 1-1 2-2 2s-1 .008-1 1.031V20c0 1 0 1 1 1z",
      path <| "M15 21c3 0 7-1 7-8V5c0-1.25-.757-2.017-2-2h-4c-1.25 0-2 .75-2 1.972V11c0 1.25.75 " ++
        "2 2 2h.75c0 2.25.25 4-2.75 4v3c0 1 0 1 1 1z"]⟩,
    ⟨"success", "check", [
      path "M20 6 9 17l-5-5"]⟩,
    ⟨"tip", "flame", [
      path <| "M8.5 14.5A2.5 2.5 0 0 0 11 12c0-1.38-.5-2-1-3-1.072-2.143-.224-4.054 2-6 " ++
        ".5 2.5 2 4.9 4 6.5 2 1.6 3 3.5 3 5.5a7 7 0 1 1-14 0" ++
        "c0-1.153.433-2.294 1-3a2.5 2.5 0 0 0 2.5 2.5z"]⟩,
    ⟨"todo", "check-circle-2", [
      ⟨"circle", [("cx", "12"), ("cy", "12"), ("r", "10")]⟩,
      path "m9 12 2 2 4-4"]⟩,
    ⟨"warning", "alert-triangle", [
      path "m21.73 18-8-14a2 2 0 0 0-3.48 0l-8 14A2 2 0 0 0 4 21h16a2 2 0 0 0 1.73-3Z",
      path "M12 9v4",
      path "M12 17h.01"]⟩
  ]

/-- Other names for kinds of callouts. -/
def aliases : List (Text × Text) :=
  [ ("attention", "warning"),
    ("caution", "warning"),
    ("check", "success"),
    ("cite", "quote"),
    ("done", "success"),
    ("error", "danger"),
    ("fail", "failure"),
    ("faq", "question"),
    ("help", "question"),
    ("hint", "tip"),
    ("important", "tip"),
    ("missing", "failure"),
    ("summary", "abstract"),
    ("tldr", "abstract")
  ]

/-- The kind whose icon stands for all names that are not known. -/
def defaultKind : Text := "note"

/-- An attribute as markup. -/
def attributeMarkup (a : Text × Text) : Text := ' ' :: a.1 ++ "=\"" ++ a.2 ++ "\""

/-- A shape as markup. -/
def Shape.markup (s : Shape) : Text :=
  '<' :: s.element ++ s.attributes.flatMap attributeMarkup ++ "/>"

/-- How every drawing is framed and its lines are drawn. -/
def frame : List (Text × Text) :=
  [("xmlns", "http://www.w3.org/2000/svg"), ("width", "24"), ("height", "24"),
    ("viewBox", "0 0 24 24"), ("fill", "none"), ("stroke", "currentColor"), ("stroke-width", "2"),
    ("stroke-linecap", "round"), ("stroke-linejoin", "round")]

/-- A drawing as markup. -/
def Drawing.markup (d : Drawing) : Text :=
  "<svg" ++ frame.flatMap attributeMarkup ++
    attributeMarkup ("class", "lucide lucide-" ++ d.name) ++ ">" ++
    d.shapes.flatMap Shape.markup ++ "</svg>"

/-- The kind that a name stands for, if it is another name for one. -/
def alias? (name : Text) : Option Text := (aliases.find? (·.1 == name)).map (·.2)

/-- The drawing of a name: its own, or that of the kind it stands for. -/
def drawing? (name : Text) : Option Drawing :=
  let kind := (alias? name).getD name
  drawings.find? (·.kind == kind)

/-- The markup of the icon for a name in any case. -/
def markup (name : Text) : Text :=
  match drawing? (Text.lower name) with
  | some d => d.markup
  | none => ((drawing? defaultKind).map Drawing.markup).getD []

end PageDirectives.Icon
