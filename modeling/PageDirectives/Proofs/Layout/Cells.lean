import PageDirectives.Layout.Monokai
import PageDirectives.Proofs.Directive.Sections
import PageDirectives.Proofs.Engine.Nesting
import PageDirectives.Proofs.Layout.Frame
import PageDirectives.Proofs.Layout.InsideOut
import PageDirectives.Proofs.Layout.Listing
/-!
Leaves in the cells of layouts. A leaf becomes text first, and the layout then cuts its body at
delimiter lines wherever they come from. So each section comes to a cell of its own, with the leaf
in the one where it was written, as long as no line of what the leaf became is the delimiter.
-/
namespace PageDirectives

open Directive

namespace Outline

variable {answer : Occurrence → Text} {page : Entries} {order : List Registration}

/-- Lines as an outline. -/
def plain : List Text → Outline
  | [] => .empty
  | text :: rest => .line text (plain rest)

theorem names_plain (lines : List Text) : (plain lines).names = [] := by
  induction lines with
  | nil => rfl
  | cons line rest ih => rw [plain, names, ih]

theorem evaluated_plain (lines : List Text) : (plain lines).evaluated answer page = lines := by
  induction lines with
  | nil => rfl
  | cons line rest ih => rw [plain, evaluated, ih]

theorem wellNested_plain {lines : List Text}
    (unmarked : ∀ line ∈ lines, '\n' ∉ line ∧ isMarked line = false) :
    (plain lines).WellNested order := by
  induction lines with
  | nil => trivial
  | cons line rest ih =>
    rw [List.forall_mem_cons] at unmarked
    exact ⟨unmarked.1, ih unmarked.2⟩

/-- Outlines in sequence with a delimiter line between each two. -/
def joined (delimiter : Text) : List Outline → Outline
  | [] => .empty
  | [d] => d
  | d :: next :: rest => d.append (.line delimiter (joined delimiter (next :: rest)))

section Joined

variable (delimiter : Text) (sections : List Outline)

theorem evaluated_joined : (joined delimiter sections).evaluated answer page =
    [delimiter].intercalate (sections.map (evaluated answer page)) := by
  fun_induction joined delimiter sections with
  | case1 => rfl
  | case2 d => rw [List.map_singleton, List.intercalate_singleton]
  | case3 d next rest ih =>
    rw [evaluated_append, evaluated, ih, List.map_cons, List.map_cons, List.map_cons,
      List.intercalate_cons_cons, List.append_assoc, List.singleton_append]

theorem mem_names_joined {name : Text} :
    name ∈ (joined delimiter sections).names ↔ ∃ d ∈ sections, name ∈ d.names := by
  fun_induction joined delimiter sections with
  | case1 => simp [names]
  | case2 d => simp
  | case3 d next rest ih =>
    rw [names_append, List.mem_append, names, ih, List.exists_mem_cons_iff _ d]

theorem wellNested_joined (whole : '\n' ∉ delimiter ∧ isMarked delimiter = false) :
    (joined delimiter sections).WellNested order ↔ ∀ d ∈ sections, d.WellNested order := by
  fun_induction joined delimiter sections with
  | case1 => simp [WellNested]
  | case2 d => simp
  | case3 d next rest ih =>
    rw [wellNested_append, WellNested, ih, and_iff_right whole]
    exact (List.forall_mem_cons).symm

end Joined

end Outline

/-- What a highlighter makes of a source is never blank. -/
def Highlighter.FillsListings (highlighter : Highlighter) : Prop :=
  ∀ language source shown, highlighter.highlight language source = .ok shown → Text.trim shown ≠ []

theorem Listing.fillsListings_monokai : Listing.monokai.FillsListings := by
  have marked (tokens : List Token) : Text.trim (Listing.markup tokens) ≠ [] :=
    Text.trim_ne_nil List.mem_cons_self (show Text.isBlank '<' = false by decide)
  intro language source shown highlighted
  have made : ∃ tokens, shown = Listing.markup tokens := by
    rw [Highlighter.highlight] at highlighted
    split at highlighted
    · exact ⟨_, (Except.ok.inj highlighted).symm⟩
    · exact ⟨_, (Except.ok.inj highlighted).symm⟩
  obtain ⟨tokens, rfl⟩ := made
  exact marked tokens

namespace Layout

/-- The leaves with a text in their body. -/
inductive Leaf
  | listing
  | callout
  | testimonial
  deriving Repr, DecidableEq

namespace Leaf

def name : Leaf → Text
  | listing => "code"
  | callout => "callout"
  | testimonial => "testimonial"

def priority : Leaf → Int
  | listing => listingPriority
  | callout => leafPriority
  | testimonial => leafPriority

def handler (highlighter : Highlighter) : Leaf → Handler
  | listing => Listing.handler highlighter
  | callout => calloutHandler
  | testimonial => testimonialHandler

def registration (highlighter : Highlighter) (leaf : Leaf) : Registration :=
  ⟨leaf.name, .block, leaf.priority, leaf.handler highlighter⟩

theorem mem_catalogue (highlighter : Highlighter) (delimiter : Text) (defaultPriority : Int)
    (leaf : Leaf) :
    leaf.registration highlighter ∈ catalogue highlighter delimiter defaultPriority := by
  rw [catalogue]
  cases leaf with
  | listing =>
    exact List.mem_append_left _ (List.mem_append_left _ (List.mem_append_left _
      (List.mem_append_left _ (.head _))))
  | callout => exact List.mem_append_right _ (.head _)
  | testimonial => exact List.mem_append_left _ (List.mem_append_left _
      (List.mem_append_right _ (.head _)))

theorem mem_levels (leaf : Leaf) : (leaf.name, .block, some leaf.priority) ∈ levels := by
  cases leaf <;> decide

theorem priority_le (leaf : Leaf) : leaf.priority ≤ leafPriority := by
  cases leaf <;> decide

theorem exists_callout (fold : Fold) (kind title content : Text) :
    ∃ rest, Layout.callout fold kind title content = '<' :: rest := by
  cases fold <;> exact ⟨_, rfl⟩

theorem outcome_callout (o : Occurrence) :
    calloutHandler.outcome o = o.raw ∨
      ∃ fold kind title content,
        calloutHandler.outcome o = Layout.callout fold kind title content := by
  have answered {text : Text} (run : calloutHandler.run o = .ok (.text text)) :
      calloutHandler.outcome o = text := by
    rw [Handler.outcome, Handler.answer?, run]
    rfl
  cases header : calloutHeader? o.args with
  | none =>
    refine .inl (answered ?_)
    simp only [calloutHandler, Handler.ofText, header]
    rfl
  | some titled =>
    refine .inr ⟨titled.1, Text.lower titled.2, capitalised titled.2, Text.trim o.content,
      answered ?_⟩
    simp only [calloutHandler, Handler.ofText, header]
    rfl

/-- What a leaf leaves in the place of a block is not blank, if no listing is. -/
theorem trim_outcome_ne_nil {highlighter : Highlighter} (filled : highlighter.FillsListings)
    (leaf : Leaf) {o : Occurrence} (written : Text.trim o.raw ≠ []) :
    Text.trim ((leaf.handler highlighter).outcome o) ≠ [] := by
  have marked {text : Text} (h : ∃ rest, text = '<' :: rest) : Text.trim text ≠ [] := by
    obtain ⟨rest, rfl⟩ := h
    exact Text.trim_ne_nil List.mem_cons_self (show Text.isBlank '<' = false by decide)
  cases leaf with
  | listing =>
    change Text.trim ((Listing.handler highlighter).outcome o) ≠ []
    cases run : (Listing.handler highlighter).run o with
    | error failure => rwa [Handler.outcome_of_error run]
    | ok v =>
      obtain ⟨shown, highlighted, rfl⟩ := Listing.run_handler_eq_ok_iff.1 run
      have answer : (Listing.handler highlighter).answer? o = some (Listing.disarm shown) := by
        rw [Handler.answer?, run]
        rfl
      rw [Handler.outcome_of_answer answer]
      exact Listing.trim_disarm_ne_nil (filled _ _ _ highlighted)
  | testimonial => exact marked ⟨_, rfl⟩
  | callout =>
    change Text.trim (calloutHandler.outcome o) ≠ []
    rcases outcome_callout o with raw | ⟨fold, kind, title, content, answered⟩
    · rwa [raw]
    · rw [answered]
      exact marked (exists_callout fold kind title content)

end Leaf

theorem trim_raw_ne_nil (page : Entries) (name tail : Text) (body : List Text) :
    Text.trim (blockOccurrence page name tail body).raw ≠ [] := by
  refine Text.trim_ne_nil ?_ (show Text.isBlank ':' = false by decide)
  rw [blockOccurrence, Text.ofLines_cons]
  exact List.mem_append_left _ List.mem_cons_self

theorem Sectioned.mem_levels (layout : Sectioned) : (layout.name, .block, none) ∈ levels := by
  cases layout <;> decide

section Registered

variable (highlighter : Highlighter) (delimiter : Text) {registry : Registry} (layout : Sectioned)
  (leaf : Leaf)

theorem runsBefore_leaf (above : leafPriority < registry.defaultPriority) :
    Outline.RunsBefore (register highlighter delimiter registry).sorted leaf.name layout.name :=
  runsBefore_of_lt highlighter delimiter leaf.mem_levels layout.mem_levels
    (Int.lt_of_le_of_lt leaf.priority_le above)

variable (registry) in
theorem exists_block : ∀ name ∈ [layout.name, leaf.name],
    ∃ r ∈ (register highlighter delimiter registry).sorted, r.name = name ∧ r.forms = .block := by
  have layoutMem := mem_register highlighter delimiter
    (layout.mem_catalogue highlighter delimiter registry.defaultPriority)
  have leafMem := mem_register highlighter delimiter
    (leaf.mem_catalogue highlighter delimiter registry.defaultPriority)
  simp only [List.forall_mem_cons, List.not_mem_nil, false_implies, implies_true, and_true]
  exact ⟨⟨_, Registry.mem_sorted.2 layoutMem, rfl, rfl⟩,
    ⟨_, Registry.mem_sorted.2 leafMem, rfl, rfl⟩⟩

end Registered

/-- A layout with a leaf in one of its sections: what is written around the layout, around that
section and around the leaf in it. -/
structure Placed where
  before : Outline
  tail : Text
  above : List Outline
  front : Outline
  leafTail : Text
  body : List Text
  back : Outline
  below : List Outline
  after : Outline

namespace Placed

variable (p : Placed) (delimiter layout leaf : Text)

/-- The section with the leaf. -/
def own : Outline := p.front.append (.block leaf p.leafTail (.plain p.body) p.back)

def sections : List Outline := p.above ++ p.own leaf :: p.below

/-- The document with the layout, given the names of both blocks. -/
def outline : Outline :=
  p.before.append (.block layout p.tail (.joined delimiter (p.sections leaf)) p.after)

/-- Lines and directives of a document with a layout around a leaf. All directives inside the layout
run before it, and the leaf holds none. -/
structure Fits (order : List Registration) : Prop where
  tails : ∀ tail ∈ [p.tail, p.leafTail], '\n' ∉ tail ∧ nameEnds tail = true
  plain : ∀ line ∈ delimiter :: p.body, '\n' ∉ line ∧ isMarked line = false
  around : ∀ d ∈ [p.before, p.after], d.WellNested order
  inside : ∀ d ∈ p.front :: p.back :: (p.above ++ p.below), d.WellNested order ∧
    ∀ name ∈ d.names, Outline.RunsBefore order name layout

/-- The leaf as it is found. -/
def leafOccurrence (page : Entries) : Occurrence := blockOccurrence page leaf p.leafTail p.body

/-- The layout as it is found once all that is inside has been answered. -/
def layoutOccurrence (answer : Occurrence → Text) (page : Entries) : Occurrence :=
  blockOccurrence page layout p.tail
    ((Outline.joined delimiter (p.sections leaf)).evaluated answer page)

/-- The sections as they are written, trimmed, with an answer in the place of each directive. -/
def written (answer : Occurrence → Text) (page : Entries) : List Text :=
  (p.sections leaf).map fun d => Text.trim (Text.ofLines (d.evaluated answer page))

/-- Outside of the leaf no line of a section is a delimiter, and no other section is blank. -/
structure Divided (answer : Occurrence → Text) (page : Entries) : Prop where
  own : delimiter ∉ p.front.evaluated answer page ++ p.back.evaluated answer page
  others : ∀ d ∈ p.above ++ p.below, delimiter ∉ d.evaluated answer page ∧
    Text.trim (Text.ofLines (d.evaluated answer page)) ≠ []

variable {p delimiter layout leaf} {order : List Registration} {answer : Occurrence → Text}
  {page : Entries}

theorem evaluated_own : (p.own leaf).evaluated answer page = p.front.evaluated answer page ++
    (Text.lines (answer (p.leafOccurrence leaf page)) ++ p.back.evaluated answer page) := by
  rw [own, Outline.evaluated_append, Outline.evaluated, Outline.evaluated_plain]
  rfl

theorem evaluated_outline : (p.outline delimiter layout leaf).evaluated answer page =
    p.before.evaluated answer page ++
      (Text.lines (answer (p.layoutOccurrence delimiter layout leaf answer page)) ++
        p.after.evaluated answer page) := by
  rw [outline, Outline.evaluated_append, Outline.evaluated]
  rfl

theorem layoutOccurrence_mem : p.layoutOccurrence delimiter layout leaf answer page ∈
    (p.outline delimiter layout leaf).occurrences answer page := by
  rw [outline, Outline.occurrences_append, Outline.occurrences]
  simp [layoutOccurrence]

section Order

variable (fits : p.Fits delimiter layout order) (before : Outline.RunsBefore order leaf layout)
  (known : ∀ name ∈ [layout, leaf], ∃ r ∈ order, r.name = name ∧ r.forms = .block)

include fits before known

theorem Fits.inside_sections : ∀ d ∈ p.sections leaf, d.WellNested order ∧
    ∀ name ∈ d.names, Outline.RunsBefore order name layout := by
  intro d hd
  rw [sections, List.mem_append, List.mem_cons] at hd
  have own : (p.own leaf).WellNested order ∧
      ∀ name ∈ (p.own leaf).names, Outline.RunsBefore order name layout := by
    obtain ⟨front, frontNames⟩ := fits.inside p.front (by simp)
    obtain ⟨back, backNames⟩ := fits.inside p.back (by simp)
    have leafNested : (Outline.block leaf p.leafTail (.plain p.body) p.back).WellNested order := by
      refine ⟨known leaf (by simp), fits.tails p.leafTail (by simp), ?_, ?_, back⟩
      · simp [Outline.names_plain]
      · exact Outline.wellNested_plain fun line hl => fits.plain line (List.mem_cons_of_mem _ hl)
    refine ⟨(Outline.wellNested_append _ _).2 ⟨front, leafNested⟩, fun name hn => ?_⟩
    rw [Placed.own, Outline.names_append, Outline.names, Outline.names_plain, List.nil_append,
      List.mem_append, List.mem_cons] at hn
    rcases hn with hn | rfl | hn
    · exact frontNames name hn
    · exact before
    · exact backNames name hn
  rcases hd with hd | rfl | hd
  · exact fits.inside d (by simp [hd])
  · exact own
  · exact fits.inside d (by simp [hd])

theorem Fits.wellNested : (p.outline delimiter layout leaf).WellNested order := by
  have inside := fits.inside_sections before known
  refine (Outline.wellNested_append _ _).2 ⟨fits.around p.before (by simp), known layout (by simp),
    fits.tails p.tail (by simp), fun name hn => ?_, ?_, fits.around p.after (by simp)⟩
  · obtain ⟨d, hd, mem⟩ := (Outline.mem_names_joined delimiter (p.sections leaf)).1 hn
    exact (inside d hd).2 name mem
  · exact (Outline.wellNested_joined delimiter _ (fits.plain delimiter List.mem_cons_self)).2
      fun d hd => (inside d hd).1

end Order

/-- The section of the leaf holds all that the leaf became. -/
theorem trim_isInfix_own (answer : Occurrence → Text) :
    Text.trim (answer (p.leafOccurrence leaf page)) <:+:
      Text.trim (Text.ofLines ((p.own leaf).evaluated answer page)) := by
  rw [evaluated_own, Text.ofLines_lines_between]
  exact Text.trim_isInfix_trim ⟨_, _, rfl⟩

/-- Where no line of what the leaf became is the delimiter, the layout finds the sections that are
written. -/
theorem Divided.ofText_eq (divided : p.Divided delimiter answer page)
    (fits : p.Fits delimiter layout order)
    (nested : ∀ d ∈ p.sections leaf, d.WellNested order)
    (filled : Text.trim (answer (p.leafOccurrence leaf page)) ≠ [])
    (whole : delimiter ∉ Text.lines (answer (p.leafOccurrence leaf page))) :
    Section.ofText delimiter (p.layoutOccurrence delimiter layout leaf answer page).content =
      p.written leaf answer page := by
  have each : ∀ d ∈ p.sections leaf, delimiter ∉ d.evaluated answer page ∧
      Text.trim (Text.ofLines (d.evaluated answer page)) ≠ [] := by
    intro d hd
    rw [sections, List.mem_append, List.mem_cons] at hd
    rcases hd with hd | rfl | hd
    · exact divided.others d (by simp [hd])
    · -- with the leaf in it the section is not blank, whatever else it holds
      refine ⟨?_, fun blank => filled (List.infix_nil.1 (blank ▸ trim_isInfix_own answer))⟩
      have own := divided.own
      rw [List.mem_append, not_or] at own
      rw [evaluated_own, List.mem_append, List.mem_append, not_or, not_or]
      exact ⟨own.1, whole, own.2⟩
    · exact divided.others d (by simp [hd])
  change Section.ofText delimiter (Text.trim (Text.ofLines (Outline.evaluated ..))) = _
  rw [Outline.evaluated_joined, Section.ofText_intercalate (fits.plain delimiter List.mem_cons_self).1
    (by simp [sections]) (List.forall_mem_map.2 fun d hd => Outline.areLines_evaluated (nested d hd))
    (List.forall_mem_map.2 fun d hd => (each d hd).1)
    (List.forall_mem_map.2 fun d hd => (each d hd).2), List.map_map]
  rfl

end Placed
end Layout

namespace Engine

open Layout

variable {highlighter : Highlighter} {registry : Registry} {delimiter : Text} {page : Entries}

/-- A layout that is answered at all is answered with its sections in its frame. -/
theorem exists_outcome_sectioned (wf : registry.WellFormed) {layout : Sectioned} {o : Occurrence}
    (name : o.name = layout.name)
    (answered : (register highlighter delimiter registry).AnswersQuietly o) :
    ∃ f, layout.frame o.args (Section.ofText delimiter o.content).length = .ok f ∧
      (register highlighter delimiter registry).outcome o =
        f.render (Section.ofText delimiter o.content) := by
  have whole := wellFormed_register_of highlighter delimiter wf
  have mem := mem_register highlighter delimiter
    (layout.mem_catalogue highlighter delimiter registry.defaultPriority)
  obtain ⟨s, hs, same, text, answer, -⟩ := answered
  obtain rfl := whole.eq_of_name mem hs (name.symm.trans same.symm)
  have run := layout.run_handler delimiter o
  cases framed : layout.frame o.args (Section.ofText delimiter o.content).length with
  | error e =>
    rw [Sectioned.answer, framed] at run
    have fails : (layout.handler delimiter).answer? o = none := by
      rw [Handler.answer?, run]
      rfl
    exact absurd (fails.symm.trans answer) (Option.some_ne_none text).symm
  | ok f =>
    rw [Sectioned.answer_of_frame framed] at run
    refine ⟨f, rfl, ?_⟩
    rw [whole.outcome_eq mem name]
    refine Handler.outcome_of_answer ?_
    change (layout.handler delimiter).answer? o = _
    rw [Handler.answer?, run]
    rfl

/-- Where all directives of a document are answered without marked lines and no listing is blank, a
layout with a leaf in one of its sections comes to its cells in their frame. If no line of what the
leaf became is the delimiter, these are the sections that are written, and all that the leaf became
is in the cell of its own. If a delimiter line is between two others of its lines, it is in no
cell. -/
theorem cells_eq_written (wf : registry.WellFormed) (filled : highlighter.FillsListings)
    (above : leafPriority < registry.defaultPriority) (layout : Sectioned) (leaf : Leaf) (p : Placed)
    (fits : p.Fits delimiter layout.name (register highlighter delimiter registry).sorted)
    (quiet : ∀ o ∈ (p.outline delimiter layout.name leaf.name).occurrences
      (register highlighter delimiter registry).outcome page,
        (register highlighter delimiter registry).AnswersQuietly o)
    (policy : LeftoverPolicy) (other : Text) :
    let engine : Engine := ⟨register highlighter delimiter registry, policy, other⟩
    let answer := engine.registry.outcome
    let shown := answer (p.leafOccurrence leaf.name page)
    let cells := Section.ofText delimiter
      (p.layoutOccurrence delimiter layout.name leaf.name answer page).content
    (∃ f, layout.frame (Text.trim p.tail) cells.length = .ok f ∧
      (process engine page (Text.ofLines (p.outline delimiter layout.name leaf.name).written)).result
        = .ok (Text.ofLines (p.before.evaluated answer page ++
          (Text.lines (f.render cells) ++ p.after.evaluated answer page)))) ∧
    (p.Divided delimiter answer page → delimiter ∉ Text.lines shown →
      cells = p.written leaf.name answer page ∧
        ∃ cell, cells[p.above.length]? = some cell ∧ Text.trim shown <:+: cell) ∧
    (Section.separator delimiter <:+: Text.trim shown →
      ∀ cell ∈ cells, ¬ Text.trim shown <:+: cell) := by
  intro engine answer shown cells
  have whole : engine.registry.WellFormed := wellFormed_register_of highlighter delimiter wf
  have before := runsBefore_leaf highlighter delimiter layout leaf above
  have known := exists_block highlighter delimiter registry layout leaf
  refine ⟨?_, fun divided uncut => ?_, fun separated cell hc inside => ?_⟩
  · -- the run is the evaluation from the inside out, and the policy finds nothing in it
    obtain ⟨f, framed, rendered⟩ :=
      exists_outcome_sectioned wf rfl (quiet _ Placed.layoutOccurrence_mem)
    have nested := fits.wellNested before known
    have done := process_yields (run_wellNested page whole _ nested quiet)
    have unmarked := Outline.isMarked_of_mem_evaluated nested
      fun o ho => whole.quiet_outcome (quiet o ho)
    rw [settled_of_quiet _ (quiet_ofLines (Outline.areLines_evaluated nested) unmarked)] at done
    refine ⟨f, framed, done.result.trans ?_⟩
    rw [Placed.evaluated_outline, ← rendered]
  · have visible : Text.trim shown ≠ [] := by
      have own : shown = (leaf.handler highlighter).outcome (p.leafOccurrence leaf.name page) :=
        whole.outcome_eq
          (mem_register highlighter delimiter (leaf.mem_catalogue highlighter delimiter _)) rfl
      rw [own]
      exact leaf.trim_outcome_ne_nil filled (trim_raw_ne_nil page leaf.name p.leafTail p.body)
    have same : cells = p.written leaf.name answer page := divided.ofText_eq fits
      (fun d hd => (fits.inside_sections before known d hd).1) visible uncut
    refine ⟨same, _, ?_, Placed.trim_isInfix_own answer⟩
    rw [same, Placed.written, Placed.sections, List.map_append, List.map_cons,
      List.getElem?_append_right (by simp)]
    simp
  · -- a cell holds no delimiter line between two others, so it does not hold what has one
    exact (Section.of_mem_ofText hc).2 (separated.trans inside)

/-- A listing in the second of three sections, below a note in the first. -/
theorem cells_eq_written_of_listing :
    let registry : Registry := {}
    let engine : Engine := ⟨register Listing.monokai "---" registry, .strip, "---"⟩
    let p : Placed := ⟨.plain ["x"], [], [.inline "note" " hi".toList .empty], .plain ["See:"],
      " text".toList, ["a < b"], .empty, [.plain ["y"]], .empty⟩
    let d := p.outline "---" "stack-mobile" "code"
    let answer := engine.registry.outcome
    let shown := answer (p.leafOccurrence "code" [])
    let cells := Section.ofText "---"
      (p.layoutOccurrence "---" "stack-mobile" "code" answer []).content
    registry.WellFormed ∧ Listing.monokai.FillsListings ∧
      leafPriority < registry.defaultPriority ∧ p.Fits "---" "stack-mobile" engine.registry.sorted ∧
      (∀ o ∈ d.occurrences answer [], engine.registry.AnswersQuietly o) ∧
      p.Divided "---" answer [] ∧ "---".toList ∉ Text.lines shown ∧
      (∃ f, Sectioned.stack.frame [] cells.length = .ok f ∧
        (process engine [] (Text.ofLines d.written)).result =
          .ok (Text.ofLines (["x".toList] ++ (Text.lines (f.render cells) ++ [])))) ∧
      cells = p.written "code" answer [] ∧
      ∃ cell, cells[1]? = some cell ∧ Text.trim shown <:+: cell := by
  intro registry engine p d answer shown cells
  have wf : registry.WellFormed := Registry.wellFormed_empty 100
  have filled : Listing.monokai.FillsListings := Listing.fillsListings_monokai
  have above : leafPriority < registry.defaultPriority := by decide
  have note : ("note".toList, Forms.inline, some leafPriority) ∈ levels := by decide
  have fits : p.Fits "---" Sectioned.stack.name engine.registry.sorted := by
    refine ⟨by decide, by decide, ?_, ?_⟩
    · simp only [List.forall_mem_cons, List.not_mem_nil, false_implies, implies_true, and_true]
      exact ⟨Outline.wellNested_plain (by decide), trivial⟩
    · obtain ⟨r, hr, name, forms, -⟩ := exists_of_mem_levels Listing.monokai "---" note 100
      have inline : (Outline.inline "note" " hi".toList .empty).WellNested
          engine.registry.sorted :=
        ⟨⟨r, Registry.mem_sorted.2 (mem_register Listing.monokai "---" hr), name,
          by rw [forms]; rfl⟩, by decide, trivial⟩
      have before : Outline.RunsBefore engine.registry.sorted "note" Sectioned.stack.name :=
        runsBefore_of_lt Listing.monokai "---" note Sectioned.stack.mem_levels (by decide)
      change ∀ d ∈ ([.plain ["See:"], .empty, .inline "note" " hi".toList .empty, .plain ["y"]] :
        List Outline), _
      simp only [List.forall_mem_cons, List.not_mem_nil, false_implies, implies_true, and_true]
      exact ⟨⟨Outline.wellNested_plain (by decide), by decide⟩, ⟨trivial, by decide⟩,
        ⟨inline, by simpa [Outline.names] using before⟩,
        ⟨Outline.wellNested_plain (by decide), by decide⟩⟩
  have quiet : ∀ o ∈ d.occurrences answer [], engine.registry.AnswersQuietly o := by
    decide +kernel
  have divided : p.Divided "---" answer [] := ⟨by decide +kernel, by decide +kernel⟩
  have uncut : "---".toList ∉ Text.lines shown := by decide +kernel
  obtain ⟨result, placed, -⟩ :=
    cells_eq_written wf filled above .stack .listing p fits quiet .strip "---"
  exact ⟨wf, filled, above, fits, quiet, divided, uncut, result, placed divided uncut⟩

/-- A delimiter line in a testimonial. Two sections are written around it, but the columns come to
three cells, and no cell has the testimonial in it. -/
theorem not_cells_eq_written :
    let engine : Engine := ⟨register Listing.monokai "---" {}, .warn, "---"⟩
    let p : Placed := ⟨.empty, " 2", [], .empty, [], ["a", "---", "b"], .empty,
      [.plain ["Right"]], .empty⟩
    let answer := engine.registry.outcome
    let shown := Text.trim (answer (p.leafOccurrence "testimonial" []))
    let text : Text := "::columns 2\n::testimonial\na\n---\nb\n::end\n---\nRight\n::end"
    let cells : List Text :=
      ["<blockquote class=\"testimonial\">\n\na", "b\n\n</blockquote>", "Right"]
    Text.ofLines (p.outline "---" "columns" "testimonial").written = text ∧
      p.Fits "---" "columns" engine.registry.sorted ∧ p.Divided "---" answer [] ∧
      p.written "testimonial" answer [] = [shown, "Right"] ∧
      (process engine [] text).result = .ok ((columnsFrame fun _ => 6).render cells) ∧
      ∀ cell ∈ cells, ¬ shown <:+: cell := by
  intro engine p answer shown text cells
  have sorted := sorted_register_levels Listing.monokai "---"
    (show wrapperPriority < 100 by decide)
  refine ⟨by decide +kernel, ⟨by decide, by decide, ?_, ?_⟩, ⟨by decide, by decide +kernel⟩,
    by decide +kernel, ?_, by decide +kernel⟩
  · simp only [List.forall_mem_cons, List.not_mem_nil, false_implies, implies_true, and_true]
    exact ⟨trivial, trivial⟩
  · change ∀ d ∈ ([.empty, .empty, .plain ["Right"]] : List Outline), _
    simp only [List.forall_mem_cons, List.not_mem_nil, false_implies, implies_true, and_true]
    exact ⟨⟨trivial, by decide⟩, ⟨trivial, by decide⟩,
      ⟨Outline.wellNested_plain (by decide), by decide⟩⟩
  · rw [process, expand, sorted]
    decide +kernel

end Engine
end PageDirectives
