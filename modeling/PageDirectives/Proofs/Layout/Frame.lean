import PageDirectives.Layout.Catalogue
/-!
Layouts of several sections as one family. What such a layout is given as arguments, and how many
sections it has, decides on its frame: markup in front of all cells, around each of them, and behind
all. The sections themselves go into the cells as they are.
-/
namespace PageDirectives.Layout

/-- The markup of a layout around its cells. -/
structure Frame where
  opening : Text
  /-- What stands in front of the cell at an index. -/
  before : Nat → Text
  behind : Text
  closing : Text

/-- A frame with cells in it, each a text of its own between the markup. -/
def Frame.render (f : Frame) (cells : List Text) : Text :=
  f.opening ++ (cells.mapIdx fun i cell => f.before i ++ (apart cell ++ f.behind)).flatten ++
    f.closing

/-- The front of a column of so many units. -/
def columnFront (units : Int) : Text :=
  "  <div class=\"col-12 md:col-" ++ Integer.decimal units ++ "\">\n"

/-- A row of columns, with the units of each. -/
def columnsFrame (units : Nat → Int) : Frame where
  opening := "<div class=\"grid gap-4\">\n"
  before i := columnFront (units i)
  behind := "  </div>\n"
  closing := "</div>\n"

/-- A row of cards. -/
def cardsFrame (units : Int) : Frame where
  opening := "<div class=\"grid gap-4\">\n"
  before _ := columnFront units ++ "    <div class=\"card\">\n"
  behind := "    </div>\n" ++ "  </div>\n"
  closing := "</div>\n"

/-- A fixed grid of so many to a row. -/
def gridFrame (number : Text) : Frame where
  opening := "<div class=\"grid-" ++ number ++ "\">\n"
  before _ := "  <div class=\"sm:row\">\n"
  behind := "  </div>\n"
  closing := "</div>\n"

/-- The layouts with a cell for each section of their body. -/
inductive Sectioned
  | columns
  | split
  | stack
  | grid
  | cards
  deriving Repr, DecidableEq

namespace Sectioned

def name : Sectioned → Text
  | columns => "columns"
  | split => "split"
  | stack => "stack-mobile"
  | grid => "grid"
  | cards => "cards"

/-- The frame that the arguments of a layout ask for, given how many sections it has. -/
def frame (args : Text) (sections : Nat) : Sectioned → Except NumberError Frame
  | columns => do
    let count ← Argument.count args 2
    .ok (columnsFrame fun _ => span count)
  | split => do
    let given ← sizes args
    .ok (columnsFrame fun i => given.getD i (span sections))
  | stack => .ok (columnsFrame fun _ => span sections)
  | grid => do
    let count ← Argument.count args 3
    let number ← Integer.write count
    .ok (gridFrame number)
  | cards => do
    let count ← Argument.count args 3
    .ok (cardsFrame (span count))

/-- What a layout makes of its arguments and its sections. -/
def answer (layout : Sectioned) (args : Text) (sections : List Text) : Except Failure Value :=
  (Failure.ofNumber (layout.frame args sections.length)).map fun f => .text (f.render sections)

def handler (delimiter : Text) : Sectioned → Handler
  | columns => columnsHandler delimiter
  | split => splitHandler delimiter
  | stack => stackHandler delimiter
  | grid => gridHandler delimiter
  | cards => cardsHandler delimiter

def registration (delimiter : Text) (priority : Int) (layout : Sectioned) : Registration :=
  ⟨layout.name, .block, priority, layout.handler delimiter⟩

theorem mem_catalogue (highlighter : Highlighter) (delimiter : Text) (priority : Int)
    (layout : Sectioned) :
    layout.registration delimiter priority ∈ catalogue highlighter delimiter priority := by
  rw [catalogue]
  refine List.mem_append_left _ (List.mem_append_left _ (List.mem_append_left _
    (List.mem_append_left _ ?_)))
  cases layout with
  | columns => exact .tail _ (.head _)
  | split => exact .tail _ (.tail _ (.head _))
  | stack => exact .tail _ (.tail _ (.tail _ (.head _)))
  | grid => exact .tail _ (.tail _ (.tail _ (.tail _ (.head _))))
  | cards => exact .tail _ (.tail _ (.tail _ (.tail _ (.tail _ (.tail _ (.head _))))))

theorem answer_of_frame {layout : Sectioned} {args : Text} {sections : List Text} {f : Frame}
    (framed : layout.frame args sections.length = .ok f) :
    layout.answer args sections = .ok (.text (f.render sections)) := by
  rw [answer, framed]
  rfl

/-- Where a layout has an answer, its arguments have given a frame. -/
theorem exists_frame {layout : Sectioned} {args answer : Text} {sections : List Text}
    (h : layout.answer args sections = .ok (.text answer)) :
    ∃ f, layout.frame args sections.length = .ok f ∧ f.render sections = answer := by
  rw [Sectioned.answer] at h
  cases framed : layout.frame args sections.length with
  | error e =>
    rw [framed] at h
    exact nomatch h
  | ok f =>
    rw [framed] at h
    exact ⟨f, rfl, Value.text.inj (Except.ok.inj h)⟩

end Sectioned

theorem column_eq (units : Int) (content : Text) :
    column units content = columnFront units ++ (content ++ "  </div>\n") :=
  List.append_assoc _ content _

theorem columns_eq_render {sections : List Text} {spans : List Int} (units : Nat → Int)
    (given : ∀ i < sections.length, spans[i]? = some (units i)) :
    columns sections spans = (columnsFrame units).render sections := by
  have paired : columns sections spans =
      row ((sections.zip spans).map fun p => column p.2 (apart p.1)) := rfl
  have cells : ((sections.zip spans).map fun p => column p.2 (apart p.1)) =
      sections.mapIdx fun i s => column (units i) (apart s) := by
    refine List.ext_getElem? fun i => ?_
    rw [List.getElem?_map, List.zip, List.getElem?_zipWith, List.getElem?_mapIdx]
    by_cases h : i < sections.length
    · rw [given i h, List.getElem?_eq_getElem h, Option.map_some, Option.map_some]
    · rw [List.getElem?_eq_none (by omega), Option.map_none, Option.map_none]
  have framed : (fun i s => column (units i) (apart s)) = fun i s =>
      (columnsFrame units).before i ++ (apart s ++ (columnsFrame units).behind) :=
    funext fun i => funext fun s => column_eq (units i) (apart s)
  rw [paired, cells, framed]
  rfl

/-- Cells with the same markup in front of each. -/
theorem render_eq_map (f : Frame) (same : ∀ i, f.before i = f.before 0) (sections : List Text) :
    f.render sections =
      f.opening ++ (sections.map fun cell => f.before 0 ++ (apart cell ++ f.behind)).flatten ++
        f.closing := by
  have cells : (sections.mapIdx fun i cell => f.before i ++ (apart cell ++ f.behind)) =
      sections.map fun cell => f.before 0 ++ (apart cell ++ f.behind) :=
    List.ext_getElem? fun i => by rw [List.getElem?_mapIdx, List.getElem?_map, same]
  rw [Frame.render, cells]

theorem cards_eq_render (sections : List Text) (units : Int) :
    row (sections.map fun card =>
        column units ("    <div class=\"card\">\n" ++ apart card ++ "    </div>\n")) =
      (cardsFrame units).render sections := by
  have framed (front opening card closing behind : Text) :
      front ++ (opening ++ apart card ++ closing ++ behind) =
        front ++ opening ++ (apart card ++ (closing ++ behind)) := by
    simp only [List.append_assoc]
  have cells : (fun card =>
      column units ("    <div class=\"card\">\n" ++ apart card ++ "    </div>\n")) = fun card =>
        (cardsFrame units).before 0 ++ (apart card ++ (cardsFrame units).behind) :=
    funext fun card => (column_eq _ _).trans (framed _ _ _ _ _)
  rw [cells, render_eq_map (cardsFrame units) fun _ => rfl]
  rfl

variable (delimiter : Text) (o : Directive.Occurrence)

theorem run_columnsHandler :
    (columnsHandler delimiter).run o =
      Sectioned.columns.answer o.args (Section.ofText delimiter o.content) := by
  have run : (columnsHandler delimiter).run o =
      ((Failure.ofNumber (Argument.count o.args 2)).bind fun count =>
        .ok (columns (Section.ofText delimiter o.content)
          ((Section.ofText delimiter o.content).map fun _ => span count))).map Value.text := rfl
  rw [run, Sectioned.answer, Sectioned.frame]
  cases Argument.count o.args 2 with
  | error e => rfl
  | ok n =>
    change Except.ok (Value.text (columns _ _)) = .ok (.text (Frame.render _ _))
    rw [columns_eq_render (fun _ => span n) fun i h => by simp [h]]

theorem run_splitHandler :
    (splitHandler delimiter).run o =
      Sectioned.split.answer o.args (Section.ofText delimiter o.content) := by
  have run : (splitHandler delimiter).run o =
      ((Failure.ofNumber (sizes o.args)).bind fun given =>
        .ok (columns (Section.ofText delimiter o.content)
          (given ++ List.replicate ((Section.ofText delimiter o.content).length - given.length)
            (span (Section.ofText delimiter o.content).length)))).map Value.text := rfl
  rw [run, Sectioned.answer, Sectioned.frame]
  generalize Section.ofText delimiter o.content = sections
  cases sizes o.args with
  | error e => rfl
  | ok given =>
    change Except.ok (Value.text (columns _ _)) = .ok (.text (Frame.render _ _))
    rw [columns_eq_render (fun i => given.getD i (span sections.length)) fun i h => ?_]
    by_cases known : i < given.length
    · simp [List.getElem?_append_left known, known]
    · rw [List.getElem?_append_right (by omega), List.getElem?_replicate, if_pos (by omega)]
      simp [List.getElem?_eq_none (Nat.le_of_not_lt known)]

theorem run_stackHandler :
    (stackHandler delimiter).run o =
      Sectioned.stack.answer o.args (Section.ofText delimiter o.content) := by
  have run : (stackHandler delimiter).run o =
      .ok (.text (columns (Section.ofText delimiter o.content)
        ((Section.ofText delimiter o.content).map fun _ =>
          span (Section.ofText delimiter o.content).length))) := rfl
  rw [run, Sectioned.answer, Sectioned.frame]
  generalize Section.ofText delimiter o.content = sections
  change Except.ok (Value.text (columns _ _)) = .ok (.text (Frame.render _ _))
  rw [columns_eq_render (fun _ => span sections.length) fun i h => by simp [h]]

theorem run_gridHandler :
    (gridHandler delimiter).run o =
      Sectioned.grid.answer o.args (Section.ofText delimiter o.content) := by
  rw [Sectioned.answer, Sectioned.frame]
  change ((Failure.ofNumber (Argument.count o.args 3)).bind fun count => _).map Value.text = _
  cases Argument.count o.args 3 with
  | error e => rfl
  | ok n =>
    change ((Failure.ofNumber (Integer.write n)).bind fun number => _).map Value.text =
      (Failure.ofNumber ((Integer.write n).bind fun number => _)).map _
    cases Integer.write n with
    | error e => rfl
    | ok number =>
      have framed : (fun item : Text =>
          "  <div class=\"sm:row\">\n" ++ apart item ++ "  </div>\n") = fun item =>
            (gridFrame number).before 0 ++ (apart item ++ (gridFrame number).behind) :=
        funext fun item => List.append_assoc _ (apart item) _
      change Except.ok (Value.text (_ ++ (List.map _ _).flatten ++ _)) =
        .ok (.text (Frame.render _ _))
      rw [framed, render_eq_map (gridFrame number) fun _ => rfl]
      rfl

theorem run_cardsHandler :
    (cardsHandler delimiter).run o =
      Sectioned.cards.answer o.args (Section.ofText delimiter o.content) := by
  rw [Sectioned.answer, Sectioned.frame]
  change ((Failure.ofNumber (Argument.count o.args 3)).bind fun count => _).map Value.text = _
  cases Argument.count o.args 3 with
  | error e => rfl
  | ok n =>
    change Except.ok (Value.text (row _)) = .ok (.text (Frame.render _ _))
    rw [cards_eq_render]

theorem Sectioned.run_handler (layout : Sectioned) :
    (layout.handler delimiter).run o =
      layout.answer o.args (Section.ofText delimiter o.content) := by
  cases layout with
  | columns => exact run_columnsHandler delimiter o
  | split => exact run_splitHandler delimiter o
  | stack => exact run_stackHandler delimiter o
  | grid => exact run_gridHandler delimiter o
  | cards => exact run_cardsHandler delimiter o

end PageDirectives.Layout
