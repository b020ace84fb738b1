import PageDirectives.Layout.Monokai
import PageDirectives.Proofs.Engine.BlockInBlock
import PageDirectives.Proofs.Layout.Catalogue
import PageDirectives.Proofs.Layout.Markup
/-!
The order in which the catalogue runs. Listings, leaves and wrappers have priorities of their own and
layouts have the default of the registry, so wrappers come before layouts where that default lies
above theirs. Then a wrapper in a layout is rendered before the layout is called with what it became.
-/
namespace PageDirectives

open Directive

/-- Of two names only one comes before the other. -/
theorem Registry.WellFormed.not_runsBefore {registry : Registry} (wf : registry.WellFormed)
    {first second : Text} (before : Outline.RunsBefore registry.sorted first second) :
    ¬ Outline.RunsBefore registry.sorted second first := by
  have distinct := wf.sorted_distinct
  obtain ⟨front, back, cut, inFront, inBack⟩ := List.cons_sublist_iff.1 before
  rw [List.singleton_sublist] at inBack
  rw [cut] at distinct
  have disjoint := List.disjoint_of_nodup_append distinct
  intro after
  rw [Outline.RunsBefore, cut, List.sublist_append_iff] at after
  obtain ⟨left, right, same, inLeft, inRight⟩ := after
  -- either both names stand behind the cut, or the second stands in front of it
  cases left with
  | nil =>
    rw [← List.nil_append right, ← same] at inRight
    exact disjoint inFront (inRight.subset (by simp))
  | cons name left =>
    obtain ⟨rfl, -⟩ := List.cons.inj same
    exact disjoint (inLeft.subset List.mem_cons_self) inBack

namespace Layout

/-- Blocks without other blocks in them, and notes on one line. -/
def leaves : List Text :=
  ["callout", "image", "button", "form", "testimonial", "space", "muted", "subtle", "note",
    "error", "alert", "warning", "success"]

/-- Blocks around one body. -/
def wrappers : List Text := ["card", "small", "accent", "feature", "center"]

/-- Blocks of several sections. -/
def layouts : List Text :=
  ["columns", "split", "stack-mobile", "grid", "collection", "cards", "gallery"]

/-- What is inside runs before what is around it: listings before leaves, leaves before wrappers and
wrappers before layouts. -/
structure InsideOut (order : List Registration) : Prop where
  listings : ∀ leaf ∈ leaves, Outline.RunsBefore order "code" leaf
  leaves : ∀ leaf ∈ leaves, ∀ wrapper ∈ wrappers, Outline.RunsBefore order leaf wrapper
  wrappers : ∀ wrapper ∈ wrappers, ∀ layout ∈ layouts, Outline.RunsBefore order wrapper layout

/-- The names of the catalogue with their forms, and the priorities of those that do not take the
default of the registry. -/
def levels : List (Text × Forms × Option Int) :=
  [("code", .block, some listingPriority), ("columns", .block, none), ("split", .block, none),
    ("stack-mobile", .block, none), ("grid", .block, none), ("collection", .block, none),
    ("cards", .block, none), ("small", .block, some wrapperPriority),
    ("accent", .block, some wrapperPriority), ("feature", .block, some wrapperPriority),
    ("center", .block, some wrapperPriority), ("card", .block, some wrapperPriority),
    ("testimonial", .block, some leafPriority), ("hero", .block, none),
    ("image", .block, some leafPriority), ("gallery", .block, none),
    ("space", .inline, some leafPriority), ("muted", .inline, some leafPriority),
    ("subtle", .inline, some leafPriority), ("note", .inline, some leafPriority),
    ("error", .inline, some leafPriority), ("alert", .inline, some leafPriority),
    ("warning", .inline, some leafPriority), ("success", .inline, some leafPriority),
    ("callout", .block, some leafPriority), ("button", .block, some leafPriority),
    ("form", .block, some leafPriority), ("if", .block, none)]

variable (highlighter : Highlighter) (delimiter : Text)

theorem map_levels_catalogue (defaultPriority : Int) :
    (catalogue highlighter delimiter defaultPriority).map (fun r => (r.name, r.forms, r.priority)) =
      levels.map fun l => (l.1, l.2.1, l.2.2.getD defaultPriority) := by
  rfl

theorem exists_of_mem_levels {name : Text} {forms : Forms} {priority : Option Int}
    (h : (name, forms, priority) ∈ levels) (defaultPriority : Int) :
    ∃ r ∈ catalogue highlighter delimiter defaultPriority, r.name = name ∧ r.forms = forms ∧
      r.priority = priority.getD defaultPriority := by
  have mem := List.mem_map_of_mem (f := fun l : Text × Forms × Option Int =>
    (l.1, l.2.1, l.2.2.getD defaultPriority)) h
  rw [← map_levels_catalogue highlighter delimiter, List.mem_map] at mem
  obtain ⟨r, hr, same⟩ := mem
  simp only [Prod.mk.injEq] at same
  exact ⟨r, hr, same⟩

theorem forms_of_mem_levels {defaultPriority : Int} {r : Registration}
    (hr : r ∈ catalogue highlighter delimiter defaultPriority) {forms : Forms}
    {priority : Option Int} (h : (r.name, forms, priority) ∈ levels) : r.forms = forms := by
  obtain ⟨s, hs, name, same, -⟩ := exists_of_mem_levels highlighter delimiter h defaultPriority
  rw [← List.inj_on_of_nodup_map (nodup_names highlighter delimiter defaultPriority) hs hr name]
  exact same

variable {registry : Registry}

theorem runsBefore_of_lt {name name' : Text} {forms forms' : Forms} {priority priority' : Option Int}
    (h : (name, forms, priority) ∈ levels) (h' : (name', forms', priority') ∈ levels)
    (lower : priority.getD registry.defaultPriority < priority'.getD registry.defaultPriority) :
    Outline.RunsBefore (register highlighter delimiter registry).sorted name name' := by
  obtain ⟨r, hr, rfl, -, same⟩ :=
    exists_of_mem_levels highlighter delimiter h registry.defaultPriority
  obtain ⟨s, hs, rfl, -, same'⟩ :=
    exists_of_mem_levels highlighter delimiter h' registry.defaultPriority
  rw [← same, ← same'] at lower
  exact (Registry.pair_sublist_sorted (mem_register highlighter delimiter hr)
    (mem_register highlighter delimiter hs) lower).map (·.name)

theorem mem_levels_leaf : ∀ leaf ∈ leaves, ∃ forms, (leaf, forms, some leafPriority) ∈ levels := by
  have each : ∀ leaf ∈ leaves, (leaf, .inline, some leafPriority) ∈ levels ∨
      (leaf, .block, some leafPriority) ∈ levels := by decide
  exact fun leaf hl => (each leaf hl).elim (fun h => ⟨_, h⟩) fun h => ⟨_, h⟩

theorem mem_levels_wrapper : ∀ wrapper ∈ wrappers,
    (wrapper, .block, some wrapperPriority) ∈ levels := by decide

theorem mem_levels_layout : ∀ layout ∈ layouts, (layout, .block, none) ∈ levels := by decide

theorem insideOut_register (above : wrapperPriority < registry.defaultPriority) :
    InsideOut (register highlighter delimiter registry).sorted where
  listings leaf hl := by
    obtain ⟨forms, mem⟩ := mem_levels_leaf leaf hl
    have first : ("code".toList, .block, some listingPriority) ∈ levels := .head _
    exact runsBefore_of_lt highlighter delimiter first mem
      (show listingPriority < leafPriority by decide)
  leaves leaf hl wrapper hw := by
    obtain ⟨forms, mem⟩ := mem_levels_leaf leaf hl
    exact runsBefore_of_lt highlighter delimiter mem (mem_levels_wrapper wrapper hw)
      (show leafPriority < wrapperPriority by decide)
  wrappers wrapper hw layout hl :=
    runsBefore_of_lt highlighter delimiter (mem_levels_wrapper wrapper hw)
      (mem_levels_layout layout hl) above

/-- With a default at or below the priority of wrappers, columns come before small containers. -/
theorem runsBefore_columns_small (wf : registry.WellFormed)
    (new : ∀ r ∈ registry.registrations, r.name ∉ names)
    (low : registry.defaultPriority ≤ wrapperPriority) :
    Outline.RunsBefore (register highlighter delimiter registry).sorted "columns" "small" := by
  have added : [Sectioned.columns.registration delimiter registry.defaultPriority,
      ⟨"small", .block, wrapperPriority, divisionHandler "container-small"⟩].Sublist
        (register highlighter delimiter registry).registrations := by
    rw [register_new highlighter delimiter wf new]
    refine List.Sublist.trans ?_ (List.sublist_append_right _ _)
    have small : ("small".toList, "container-small".toList) ∈ containers := by decide
    rw [catalogue]
    refine List.Sublist.trans ?_ (List.sublist_append_left _ _)
    refine List.Sublist.trans ?_ (List.sublist_append_left _ _)
    refine List.Sublist.trans ?_ (List.sublist_append_left _ _)
    change ([_] ++ [_]).Sublist (_ ++ _)
    exact (List.singleton_sublist.2 (.tail _ (.head _))).append
      (List.singleton_sublist.2 (List.mem_map.2 ⟨_, small, rfl⟩))
  exact (Registry.pair_sublist_sorted_of_le added low).map (·.name)

theorem insideOut_iff (wf : registry.WellFormed)
    (new : ∀ r ∈ registry.registrations, r.name ∉ names) :
    InsideOut (register highlighter delimiter registry).sorted ↔
      wrapperPriority < registry.defaultPriority := by
  refine ⟨fun order => ?_, insideOut_register highlighter delimiter⟩
  by_contra low
  have before := order.wrappers "small" (by decide) "columns" (by decide)
  refine (wellFormed_register_of highlighter delimiter wf).not_runsBefore before ?_
  exact runsBefore_columns_small highlighter delimiter wf new (Int.not_lt.1 low)

end Layout

namespace Engine

open Layout

/-- A wrapper in the body of a layout is rendered before the layout is called, with what it became
in its place. -/
def RendersInside (engine : Engine) (highlighter : Highlighter) (delimiter : Text)
    (defaultPriority : Int) : Prop :=
  ∀ outer ∈ catalogue highlighter delimiter defaultPriority, outer.name ∈ layouts →
    ∀ c ∈ containers, ∀ (b : BlockInBlock) (page : Entries), b.Plain outer.name c.1 →
      isMarked (Text.trim (Text.ofLines b.body)) = false →
        let calls := (process engine page (Text.ofLines (b.lines outer.name c.1))).trace.calls
        let answer := wrap ("<div class=\"" ++ c.2 ++ "\">") "</div>"
          (Text.trim (Text.ofLines b.body))
        ⟨.builtIn, b.innerOccurrence page c.1⟩ ∈ calls ∧
          ⟨outer.handler.origin, b.outerOccurrence page outer.name answer⟩ ∈ calls

variable {registry : Registry}

theorem rendersInside_register (wf : registry.WellFormed) (highlighter : Highlighter)
    (delimiter sections : Text) (policy : LeftoverPolicy)
    (above : wrapperPriority < registry.defaultPriority) :
    RendersInside ⟨register highlighter delimiter registry, policy, sections⟩ highlighter delimiter
      registry.defaultPriority := by
  intro outer ho layout c hc b page plain unmarked calls answer
  let inner : Registration := ⟨c.1, .block, wrapperPriority, divisionHandler c.2⟩
  have innerMem : inner ∈ catalogue highlighter delimiter registry.defaultPriority := by
    rw [catalogue]
    refine List.mem_append_left _ (List.mem_append_left _ (List.mem_append_left _ ?_))
    exact List.mem_append_right _ (List.mem_map.2 ⟨c, hc, rfl⟩)
  have known : ∀ c ∈ containers, c.1 ∈ wrappers ∧ '\n' ∉ c.2 := by decide
  have before := (insideOut_register highlighter delimiter above).wrappers c.1 (known c hc).1
    outer.name layout
  have whole := wellFormed_register_of highlighter delimiter wf
  obtain ⟨first, middle, last, cut⟩ :=
    whole.exists_cut (mem_register highlighter delimiter innerMem)
      (mem_register highlighter delimiter ho) before
  have order := order_sorted whole
  rw [cut] at order
  have answered : inner.handler.run (b.innerOccurrence page inner.name) = .ok (.text answer) := rfl
  have closing : Quiet ("</div>" : Text) := by decide +kernel
  have quiet : Quiet answer := by
    rw [quiet_wrap_iff (quiet_division (known c hc).2) closing, quiet_iff_of_calm plain.calm]
    exact unmarked
  have outerBlock : outer.forms = .block :=
    forms_of_mem_levels highlighter delimiter ho (mem_levels_layout outer.name layout)
  have made := plain.mem_calls order rfl answered quiet outerBlock
  rw [← cut] at made
  exact ⟨mem_calls_process made.1, mem_calls_process made.2⟩

/-- The catalogue runs from the inside out exactly where the layouts are given a priority above that
of the wrappers, if its names are new to the registry. Then wrappers in layouts are rendered inside
them, whatever else is registered. -/
theorem rendersInside_of_insideOut (wf : registry.WellFormed) (highlighter : Highlighter)
    (delimiter sections : Text) (policy : LeftoverPolicy) :
    (wrapperPriority < registry.defaultPriority →
      InsideOut (register highlighter delimiter registry).sorted ∧
        RendersInside ⟨register highlighter delimiter registry, policy, sections⟩ highlighter
          delimiter registry.defaultPriority) ∧
    ((∀ r ∈ registry.registrations, r.name ∉ names) →
      (InsideOut (register highlighter delimiter registry).sorted ↔
        wrapperPriority < registry.defaultPriority)) :=
  ⟨fun above => ⟨insideOut_register highlighter delimiter above,
    rendersInside_register wf highlighter delimiter sections policy above⟩,
    insideOut_iff highlighter delimiter wf⟩

/-- The default of the settings lies above the priority of wrappers. -/
theorem rendersInside_of_default :
    let registry : Registry := {}
    registry.WellFormed ∧
      (wrapperPriority < registry.defaultPriority →
        InsideOut (register Listing.monokai "---" registry).sorted ∧
          RendersInside ⟨register Listing.monokai "---" registry, .warn, "---"⟩ Listing.monokai
            "---" registry.defaultPriority) ∧
      ((∀ r ∈ registry.registrations, r.name ∉ names) →
        (InsideOut (register Listing.monokai "---" registry).sorted ↔
          wrapperPriority < registry.defaultPriority)) := by
  intro registry
  have wf : registry.WellFormed := Registry.wellFormed_empty 100
  exact ⟨wf, rendersInside_of_insideOut wf Listing.monokai "---" "---" .warn⟩

/-- With a default of sixty columns are called with a card in them that is not rendered, up to the
closing line of the card, and the card takes the markup of the columns into its body. -/
theorem not_rendersInside :
    let registry : Registry := { defaultPriority := 60 }
    let engine : Engine := ⟨register Listing.monokai "---" registry, .warn, "---"⟩
    let text : Text := "::columns\n::card\nA\n::end\n---\nB\n::end"
    ¬ InsideOut engine.registry.sorted ∧
      (process engine [] text).trace.calls.map (fun c => (c.occurrence.name, c.occurrence.content)) =
        [("columns".toList, "::card\nA".toList),
          ("card".toList, "A\n\n  </div>\n</div>\n\n---\nB".toList)] := by
  intro registry engine text
  have wf : registry.WellFormed := Registry.wellFormed_empty 60
  -- layouts now come between leaves and wrappers
  have sorted : (register Listing.monokai "---" { defaultPriority := 60 }).sorted =
      [listingPriority, leafPriority, 60, wrapperPriority].flatMap fun level =>
        (catalogue Listing.monokai "---" 60).filter (·.priority = level) := by
    rw [register_empty]
    refine Registry.sorted_eq_flatMap (by decide) fun r hr => ?_
    have among := priority_of_mem_catalogue Listing.monokai "---" 60 hr
    simp only [List.mem_cons, List.not_mem_nil, or_false] at among ⊢
    omega
  refine ⟨fun order => ?_, ?_⟩
  · exact absurd ((insideOut_iff Listing.monokai "---" wf (by simp [registry])).1 order) (by decide)
  · rw [process, expand, sorted]
    decide +kernel

end Engine
end PageDirectives
