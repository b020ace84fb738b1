import PageDirectives.Proofs.Directive.Calm
import PageDirectives.Proofs.Directive.Registry
import PageDirectives.Proofs.Layout.Frame
import PageDirectives.Proofs.Layout.OneLine
/-!
Where the markup of layouts puts the text it is given. Arguments, captions, labels and addresses
stand inside lines of markup and begin none, whatever they hold. A wrapped body and each cell of a
frame begin with a line of their own, so there it depends on the text whether a line is marked.
-/
namespace PageDirectives.Layout

open Directive

section Lines

theorem quiet_apart_iff {text : Text} : Quiet (apart text) ↔ Quiet text := by
  have regrouped : apart text = [] ++ '\n' :: (text ++ '\n' :: ([] ++ '\n' :: [])) := rfl
  rw [regrouped, quiet_append_feed_iff, quiet_append_feed_iff, quiet_append_feed_iff]
  simp [quiet_nil]

theorem getLast?_apart (text : Text) : (apart text).getLast? = some '\n' :=
  getLast?_append_of_eq_some (show ['\n', '\n'].getLast? = some '\n' from rfl) ('\n' :: text)

theorem quiet_wrap_iff {opening closing : Text} (ho : Quiet opening) (hc : Quiet closing)
    {body : Text} : Quiet (wrap opening closing body) ↔ Quiet body := by
  have regrouped : wrap opening closing body =
      (opening ++ '\n' :: apart body) ++ (closing ++ '\n' :: []) := by
    rw [wrap, List.append_assoc]
  have whole : (opening ++ '\n' :: apart body).getLast? = some '\n' :=
    getLast?_append_of_eq_some (getLast?_append_of_eq_some (getLast?_apart body) ['\n']) opening
  rw [regrouped, quiet_append_iff whole, quiet_append_feed_iff, quiet_append_feed_iff,
    quiet_apart_iff]
  simp [ho, hc, quiet_nil]

/-- The opening tag of a division of a class. -/
theorem quiet_division {cssClass : Text} (free : '\n' ∉ cssClass) :
    Quiet ("<div class=\"" ++ cssClass ++ "\">") :=
  Leads.around (by decide +kernel) (calm_of_notMem free) (by decide +kernel)

/-- A frame whose markup consists of whole lines. -/
structure Frame.WholeLines (f : Frame) : Prop where
  opening : QuietLines f.opening
  before : ∀ i, QuietLines (f.before i)
  behind : QuietLines f.behind
  closing : QuietLines f.closing

theorem quiet_render_iff {f : Frame} (whole : f.WholeLines) {cells : List Text} :
    Quiet (f.render cells) ↔ ∀ cell ∈ cells, Quiet cell := by
  have framed (i : Nat) (cell : Text) :
      (f.before i ++ (apart cell ++ f.behind)).getLast? = some '\n' :=
    getLast?_append_of_eq_some (getLast?_append_of_eq_some whole.behind.2 _) _
  have pieces : ∀ p ∈ cells.mapIdx fun i cell => f.before i ++ (apart cell ++ f.behind),
      p.getLast? = some '\n' := by
    intro p hp
    obtain ⟨i, hi, rfl⟩ := List.mem_mapIdx.1 hp
    exact framed i cells[i]
  have each (i : Nat) (cell : Text) :
      Quiet (f.before i ++ (apart cell ++ f.behind)) ↔ Quiet cell := by
    rw [quiet_append_iff (whole.before i).2, quiet_append_iff (getLast?_apart cell),
      quiet_apart_iff, and_iff_right (whole.before i).1, and_iff_left whole.behind.1]
  rw [Frame.render, List.append_assoc, quiet_append_iff whole.opening.2,
    quiet_flatten_append_iff pieces, and_iff_right whole.opening.1, and_iff_left whole.closing.1]
  constructor
  · intro quiet cell hc
    obtain ⟨i, hi, rfl⟩ := List.mem_iff_getElem.1 hc
    exact (each i _).1 (quiet _ (List.mem_mapIdx.2 ⟨i, hi, rfl⟩))
  · intro quiet p hp
    obtain ⟨i, hi, rfl⟩ := List.mem_mapIdx.1 hp
    exact (each i _).2 (quiet _ (List.getElem_mem hi))

theorem quietLines_columnFront (units : Int) : QuietLines (columnFront units) :=
  Leads.lines (by decide +kernel) (calm_of_notMem (Integer.newline_notMem_decimal units))
    (by decide +kernel) (by decide +kernel)

theorem wholeLines_columnsFrame (units : Nat → Int) : (columnsFrame units).WholeLines where
  opening := show QuietLines ("<div class=\"grid gap-4\">\n" : Text) by decide +kernel
  before i := quietLines_columnFront (units i)
  behind := show QuietLines ("  </div>\n" : Text) by decide +kernel
  closing := show QuietLines ("</div>\n" : Text) by decide +kernel

theorem wholeLines_cardsFrame (units : Int) : (cardsFrame units).WholeLines where
  opening := show QuietLines ("<div class=\"grid gap-4\">\n" : Text) by decide +kernel
  before _ := (quietLines_columnFront units).append (by decide +kernel)
  behind := show QuietLines ("    </div>\n" ++ "  </div>\n" : Text) by decide +kernel
  closing := show QuietLines ("</div>\n" : Text) by decide +kernel

theorem wholeLines_gridFrame {number : Text} (free : '\n' ∉ number) :
    (gridFrame number).WholeLines where
  opening :=
    Leads.lines (by decide +kernel) (calm_of_notMem free) (by decide +kernel) (by decide +kernel)
  before _ := show QuietLines ("  <div class=\"sm:row\">\n" : Text) by decide +kernel
  behind := show QuietLines ("  </div>\n" : Text) by decide +kernel
  closing := show QuietLines ("</div>\n" : Text) by decide +kernel

/-- Whatever the arguments, a frame consists of whole lines. -/
theorem Sectioned.wholeLines {layout : Sectioned} {args : Text} {sections : Nat} {f : Frame}
    (h : layout.frame args sections = .ok f) : f.WholeLines := by
  cases layout with
  | columns =>
    obtain ⟨count, -, same⟩ := Registry.exists_of_bind_eq_ok h
    exact Except.ok.inj same ▸ wholeLines_columnsFrame _
  | split =>
    obtain ⟨given, -, same⟩ := Registry.exists_of_bind_eq_ok h
    exact Except.ok.inj same ▸ wholeLines_columnsFrame _
  | stack => exact Except.ok.inj h ▸ wholeLines_columnsFrame _
  | grid =>
    obtain ⟨count, -, rest⟩ := Registry.exists_of_bind_eq_ok h
    obtain ⟨number, written, same⟩ := Registry.exists_of_bind_eq_ok rest
    exact Except.ok.inj same ▸ wholeLines_gridFrame (Integer.newline_notMem_of_write written)
  | cards =>
    obtain ⟨count, -, same⟩ := Registry.exists_of_bind_eq_ok h
    exact Except.ok.inj same ▸ wholeLines_cardsFrame _

end Lines

section Inside

theorem quiet_figure {cssClass url caption : Text} (free : '\n' ∉ cssClass) (hu : Calm url)
    (hc : Calm caption) : Quiet (figure cssClass url caption) := by
  have opening : Leads ("<figure class=\"" ++ cssClass ++ "\">\n  <img src=\"") :=
    Leads.next (by decide +kernel) (calm_of_notMem free) (by decide +kernel) (by decide +kernel)
  have source : Leads ("<figure class=\"" ++ cssClass ++ "\">\n  <img src=\"" ++
      Text.asAttribute url ++ "\" alt=\"") :=
    opening.next (calm_asAttribute hu) (by decide +kernel) (by decide +kernel)
  have image : QuietLines ("<figure class=\"" ++ cssClass ++ "\">\n  <img src=\"" ++
      Text.asAttribute url ++ "\" alt=\"" ++ Text.asAttribute caption ++ "\">\n") :=
    source.lines (calm_asAttribute hc) (by decide +kernel) (by decide +kernel)
  have captioned : QuietLines ("  <figcaption>" ++ caption ++ "</figcaption>\n") :=
    Leads.lines (by decide +kernel) hc (by decide +kernel) (by decide +kernel)
  have closing : Quiet ("</figure>\n" : Text) := by decide +kernel
  change Quiet (_ ++ (if caption = [] then [] else _) ++ _)
  by_cases none : caption = []
  · rw [if_pos none, List.append_nil]
    exact image.quiet_append closing
  · rw [if_neg none]
    exact (image.append captioned).quiet_append closing

theorem quietLines_calloutTitle (kind : Text) {title : Text} (free : '\n' ∉ title) :
    QuietLines (calloutTitle kind title) := by
  have icon : Leads ("<div class=\"callout-title-icon\">" ++ Icon.markup kind ++
      "</div>\n<div class=\"callout-title-inner\">") :=
    Leads.next (by decide +kernel) (calm_of_notMem (Icon.newline_notMem_markup kind))
      (by decide +kernel) (by decide +kernel)
  exact icon.lines (calm_of_notMem free) (by decide +kernel) (by decide +kernel)

theorem quiet_callout (fold : Fold) {kind title content : Text} (hk : '\n' ∉ kind)
    (ht : '\n' ∉ title) (hc : Calm content) : Quiet (callout fold kind title content) := by
  have title' := quietLines_calloutTitle kind ht
  have body : QuietLines ("<div class=\"callout-content\">" ++ content ++ "</div>\n") :=
    Leads.lines (by decide +kernel) hc (by decide +kernel) (by decide +kernel)
  have start {element : Text} (h : Leads ('<' :: element ++ " class=\"callout\" data-callout=\"")) :
      Leads ('<' :: element ++ " class=\"callout\" data-callout=\"" ++ kind ++ "\"") :=
    h.next (calm_of_notMem hk) (by decide +kernel) (by decide +kernel)
  have details := start (show Leads ('<' :: "details" ++ " class=\"callout\" data-callout=\"")
    by decide +kernel)
  have division := start (show Leads ('<' :: "div" ++ " class=\"callout\" data-callout=\"")
    by decide +kernel)
  have folded {openMark : Text} (calm : Calm openMark) :
      Quiet ('<' :: "details" ++ " class=\"callout\" data-callout=\"" ++ kind ++ "\"" ++ openMark ++
        ">\n<summary class=\"callout-title\">\n" ++ calloutTitle kind title ++ "</summary>\n" ++
        ("<div class=\"callout-content\">" ++ content ++ "</div>\n") ++ "</details>") := by
    have opening := details.lines calm
      (show Follows (">\n<summary class=\"callout-title\">\n" : Text) by decide +kernel)
      (by decide +kernel)
    have summary : QuietLines ("</summary>\n" : Text) := by decide +kernel
    exact (((opening.append title').append summary).append body).quiet_append (by decide +kernel)
  cases fold with
  | opened => exact folded (show Calm (" open" : Text) by decide +kernel)
  | closed => exact folded (by decide +kernel)
  | unfolding =>
    have opening : QuietLines ('<' :: "div" ++ " class=\"callout\" data-callout=\"" ++ kind ++
        "\"" ++ ">\n<div class=\"callout-title\">\n") :=
      ⟨division.append (by decide +kernel), getLast?_append_of_eq_some (by decide +kernel) _⟩
    have closing : QuietLines ("</div>\n" : Text) := by decide +kernel
    exact (((opening.append title').append closing).append body).quiet_append (by decide +kernel)

theorem quiet_link {url cssClass label : Text} (hu : Calm url) (hc : '\n' ∉ cssClass)
    (hl : Calm label) :
    Quiet ("<a href=\"" ++ url ++ "\" class=\"" ++ cssClass ++ "\">" ++ label ++ "</a>\n") := by
  have address : Leads ("<a href=\"" ++ url ++ "\" class=\"") :=
    Leads.next (by decide +kernel) hu (by decide +kernel) (by decide +kernel)
  have classed := address.next (calm_of_notMem hc) (show Follows ("\">" : Text) by decide +kernel)
    (by decide +kernel)
  exact classed.around hl (by decide +kernel)

theorem quietLines_field {label : Text} (free : '\n' ∉ label) : QuietLines (field label) := by
  have name := calm_of_notMem (Text.newline_notMem_lower free)
  have labelled : QuietLines ("  <div class=\"form-field\">\n    <label for=\"" ++
      Text.lower label ++ "\">" ++ label ++ "</label>\n") := by
    have marked := Leads.next (show Leads ("  <div class=\"form-field\">\n    <label for=\"" : Text)
      by decide +kernel) name (show Follows ("\">" : Text) by decide +kernel) (by decide +kernel)
    exact marked.lines (calm_of_notMem free) (by decide +kernel) (by decide +kernel)
  have area : QuietLines ("    <textarea id=\"" ++ Text.lower label ++ "\" name=\"" ++
      Text.lower label ++ "\" required></textarea>\n") := by
    have named := Leads.next (show Leads ("    <textarea id=\"" : Text) by decide +kernel) name
      (show Follows ("\" name=\"" : Text) by decide +kernel) (by decide +kernel)
    exact named.lines name (by decide +kernel) (by decide +kernel)
  have input {kind : Text} (hk : '\n' ∉ kind) : QuietLines ("    <input type=\"" ++ kind ++
      "\" id=\"" ++ Text.lower label ++ "\" name=\"" ++ Text.lower label ++ "\" required>\n") := by
    have typed := Leads.next (show Leads ("    <input type=\"" : Text) by decide +kernel)
      (calm_of_notMem hk) (show Follows ("\" id=\"" : Text) by decide +kernel) (by decide +kernel)
    have named := typed.next name (show Follows ("\" name=\"" : Text) by decide +kernel)
      (by decide +kernel)
    exact named.lines name (by decide +kernel) (by decide +kernel)
  have closing : QuietLines ("  </div>\n" : Text) := by decide +kernel
  change QuietLines (_ ++ (if _ then _ else _) ++ _)
  refine (labelled.append ?_).append closing
  split
  · exact area
  · exact input (by split <;> decide)

end Inside

end PageDirectives.Layout
