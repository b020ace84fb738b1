import PageDirectives.Layout.Monokai
import PageDirectives.Proofs.Directive.Sections
import PageDirectives.Proofs.Engine.Blocks
import PageDirectives.Proofs.Layout.Catalogue
import PageDirectives.Proofs.Layout.Listing
import PageDirectives.Proofs.Layout.Markup
/-!
What the blocks of the catalogue begin lines with. Bodies and sections are trimmed before they are
set between markup, so text that was indented may come to stand at the start of a line. That is the
one way in which a block whose body has no marked line makes one: where no such piece begins with a
mark, the block is replaced by text without marked lines and the engine is done with it.
-/
namespace PageDirectives

open Directive

/-- A handler begins lines with these pieces of what it is given and with nothing else of it, where
it neither fails nor leaves the block as it is. -/
def Handler.Begins (handler : Handler) (pieces : Occurrence → List Text) : Prop :=
  ∀ o answer, '\n' ∉ o.args → Calm o.content → handler.run o = .ok (.text answer) →
    answer ≠ o.raw → (Quiet answer ↔ ∀ piece ∈ pieces o, isMarked piece = false)

namespace Layout

/-- What a block sets at the start of a line: nothing, its body, its body if its condition holds, or
each of its sections. -/
inductive Placement
  | nothing
  | body
  | branch
  | sections
  deriving Repr, DecidableEq

/-- The blocks that set text at the start of a line. -/
def placements : List (Text × Placement) :=
  [("columns", .sections), ("split", .sections), ("stack-mobile", .sections), ("grid", .sections),
    ("cards", .sections), ("collection", .body), ("small", .body), ("accent", .body),
    ("feature", .body), ("center", .body), ("card", .body), ("testimonial", .body),
    ("hero", .body), ("if", .branch)]

namespace Placement

def ofName (name : Text) : Placement :=
  ((placements.find? (·.1 == name)).map (·.2)).getD .nothing

/-- The pieces of an occurrence that come to stand at the start of a line. -/
def pieces (delimiter : Text) (placement : Placement) (o : Occurrence) : List Text :=
  match placement with
  | nothing => []
  | body => [o.content]
  | branch => if Condition.holds o.args o.page = .ok true then [o.content] else []
  | sections => Section.ofText delimiter o.content

theorem forall_pieces_body {delimiter : Text} {o : Occurrence} {p : Text → Prop} :
    (∀ piece ∈ body.pieces delimiter o, p piece) ↔ p o.content := List.forall_mem_singleton

end Placement

section Handlers

theorem run_ofText {f : Occurrence → Except Failure Text} {o : Occurrence} {answer : Text} :
    (Handler.ofText f).run o = .ok (.text answer) ↔ f o = .ok answer := by
  change (f o).map Value.text = _ ↔ _
  cases f o with
  | error e => exact iff_of_false nofun nofun
  | ok text =>
    change Except.ok (Value.text text) = _ ↔ _
    simp

theorem eq_ok_of_ofNumber {α : Type} {x : Except NumberError α} {a : α}
    (h : Failure.ofNumber x = .ok a) : x = .ok a := Registry.eq_ok_of_mapError h

theorem begins_nothing {handler : Handler} {delimiter : Text}
    (quiet : ∀ o answer, '\n' ∉ o.args → Calm o.content → handler.run o = .ok (.text answer) →
      answer ≠ o.raw → Quiet answer) : handler.Begins (Placement.nothing.pieces delimiter) :=
  fun o answer args content run differs =>
    iff_of_true (quiet o answer args content run differs) fun _ none => absurd none List.not_mem_nil

variable (delimiter : Text)

theorem begins_sectioned (layout : Sectioned) :
    (layout.handler delimiter).Begins (Placement.sections.pieces delimiter) := by
  intro o answer _ calm run _
  rw [Sectioned.run_handler] at run
  obtain ⟨f, framed, same⟩ := Sectioned.exists_frame run
  rw [← same, quiet_render_iff (Sectioned.wholeLines framed)]
  exact forall₂_congr fun piece hp =>
    quiet_iff_of_calm (calm.of_isInfix (Section.of_mem_ofText hp).1)

theorem begins_wrapper {opening closing : Text} (ho : Quiet opening) (hc : Quiet closing) :
    (wrapperHandler opening closing).Begins (Placement.body.pieces delimiter) := by
  intro o answer _ calm run _
  rw [← Except.ok.inj (run_ofText.1 run), quiet_wrap_iff ho hc, quiet_iff_of_calm calm,
    Placement.forall_pieces_body]

theorem begins_hero : heroHandler.Begins (Placement.body.pieces delimiter) := by
  have aligned : ∀ align ∈ alignments, '\n' ∉ align := by decide
  intro o answer _ calm run _
  have classes : '\n' ∉ heroClasses o.args := by
    rw [heroClasses]
    split
    · next known =>
      have free := aligned _ (List.contains_iff_mem.1 known)
      rw [List.mem_append, not_or]
      exact ⟨by decide, free⟩
    · decide
  have closing : Quiet ("</div>" : Text) := by decide +kernel
  rw [← Except.ok.inj (run_ofText.1 run), quiet_wrap_iff (quiet_division classes) closing,
    quiet_iff_of_calm calm, Placement.forall_pieces_body]

theorem begins_branch : branchHandler.Begins (Placement.branch.pieces delimiter) := by
  intro o answer _ calm run _
  have branched := run_ofText.1 run
  obtain ⟨holds, tested, same⟩ := Registry.exists_of_bind_eq_ok branched
  have tested := eq_ok_of_ofNumber tested
  cases holds with
  | true =>
    have set : '\n' :: o.content ++ ['\n'] = answer := Except.ok.inj same
    have regrouped : '\n' :: o.content ++ ['\n'] = [] ++ '\n' :: (o.content ++ '\n' :: []) := rfl
    rw [← set, regrouped, Placement.pieces, if_pos tested, quiet_append_feed_iff,
      quiet_append_feed_iff, quiet_iff_of_calm calm, List.forall_mem_singleton]
    simp [quiet_nil]
  | false =>
    have none : [] = answer := Except.ok.inj same
    rw [← none, Placement.pieces, if_neg (by rw [tested]; simp)]
    exact iff_of_true quiet_nil (List.forall_mem_nil _)

theorem begins_collection : collectionHandler.Begins (Placement.body.pieces delimiter) := by
  intro o answer args calm run differs
  have collected := run_ofText.1 run
  beta_reduce at collected
  cases named : Text.words o.args with
  | nil =>
    rw [named] at collected
    exact absurd (Except.ok.inj collected).symm differs
  | cons collection rest =>
    have free := Text.newline_notMem_words args collection (named ▸ List.mem_cons_self)
    rw [named] at collected
    obtain ⟨count, -, same⟩ := Registry.exists_of_bind_eq_ok collected
    have front : QuietLines ("<div class=\"grid\">\n\x7b% for item in " ++ collection ++
        " %\x7d\n  <div class=\"sm:row col-" ++ Integer.decimal (span count) ++ "\">\n") := by
      have item : Leads ("<div class=\"grid\">\n\x7b% for item in " ++ collection ++
          " %\x7d\n  <div class=\"sm:row col-") :=
        Leads.next (by decide +kernel) (calm_of_notMem free) (by decide +kernel) (by decide +kernel)
      exact item.lines (calm_of_notMem (Integer.newline_notMem_decimal _)) (by decide +kernel)
        (by decide +kernel)
    have behind : Follows ("\n  </div>\n\x7b% endfor %\x7d\n</div>" : Text) := by decide +kernel
    -- in the place of an empty body stands an item of the handler's own, which is quiet
    have filled : Quiet (Text.orElse (some o.content) defaultItem) ↔
        isMarked o.content = false := by
      cases written : o.content with
      | nil => exact iff_of_true (by decide +kernel) (by decide)
      | cons c rest =>
        rw [written] at calm
        exact quiet_iff_of_calm calm
    rw [← Except.ok.inj same, quiet_append_iff_of_follows behind, quiet_append_iff front.2,
      and_iff_right front.1, filled, Placement.forall_pieces_body]

theorem begins_image : imageHandler.Begins (Placement.nothing.pieces delimiter) := by
  refine begins_nothing fun o answer args calm run differs => ?_
  have shown := run_ofText.1 run
  beta_reduce at shown
  cases written : Text.lines o.content with
  | nil => exact absurd written (Text.lines_ne_nil _)
  | cons first rest =>
    rw [written] at shown
    change (if Text.trim first = [] then .ok o.raw else _) = Except.ok answer at shown
    have whole : Text.ofLines (first :: rest) = o.content := by rw [← written, Text.ofLines_lines]
    split at shown
    · exact absurd (Except.ok.inj shown).symm differs
    · rw [← Except.ok.inj shown]
      refine quiet_figure ?_ (calm.of_isInfix ?_) (calm.of_isInfix ?_)
      · exact newline_notMem_variantClass (by decide) (by decide) (Text.newline_notMem_trim args)
      · refine (Text.trim_isInfix first).trans ?_
        rw [← whole, Text.ofLines_cons]
        exact (List.prefix_append _ _).isInfix
      · refine (Text.trim_isInfix _).trans ?_
        rw [← whole, Text.ofLines_cons]
        cases rest with
        | nil => exact List.nil_infix
        | cons next rest =>
          rw [Text.afterLine_cons]
          exact ⟨first ++ ['\n'], [], by simp⟩

theorem begins_gallery :
    (galleryHandler delimiter).Begins (Placement.nothing.pieces delimiter) := by
  refine begins_nothing fun o answer args calm run differs => ?_
  obtain ⟨count, -, same⟩ := Registry.exists_of_bind_eq_ok (run_ofText.1 run)
  have opening : QuietLines ("<div class=\"gallery grid gap-4\">\n" : Text) := by decide +kernel
  have behind : QuietLines ("  </div>\n" : Text) := by decide +kernel
  have images : ∀ image ∈ (Section.ofText delimiter o.content).map fun url =>
      column (span count) ("    <img src=\"" ++ Text.asAttribute url ++ "\" alt=\"\">\n"),
      QuietLines image := by
    refine List.forall_mem_map.2 fun url hu => ?_
    have address := calm_asAttribute (calm.of_isInfix (Section.of_mem_ofText hu).1)
    have image : QuietLines ("    <img src=\"" ++ Text.asAttribute url ++ "\" alt=\"\">\n") :=
      Leads.lines (by decide +kernel) address (by decide +kernel) (by decide +kernel)
    rw [column_eq]
    exact (quietLines_columnFront _).append (image.append behind)
  rw [← Except.ok.inj same, List.append_assoc]
  refine opening.quiet_append ((quiet_flatten_append_iff fun p hp => (images p hp).2).2 ?_)
  exact ⟨fun p hp => (images p hp).1, by decide +kernel⟩

theorem subset_of_calloutHeader? {args title : Text} {fold : Fold}
    (h : calloutHeader? args = some (fold, title)) : title ⊆ args := by
  have trimmed := (Text.trim_isInfix args).subset
  have marked {c : Char} {rest : Text} (same : Text.trim args = c :: rest) :
      Text.trimStart rest ⊆ args := fun d hd =>
    trimmed (same ▸ List.mem_cons_of_mem c ((Text.trimStart_isSuffix rest).subset hd))
  rw [calloutHeader?] at h
  split at h
  · exact nomatch h
  · next c same =>
    rw [← (Prod.mk.inj (Option.some.inj h)).2, ← same]
    exact trimmed
  · next same =>
    rw [← (Prod.mk.inj (Option.some.inj h)).2]
    exact marked same
  · next same =>
    rw [← (Prod.mk.inj (Option.some.inj h)).2]
    exact marked same
  · rw [← (Prod.mk.inj (Option.some.inj h)).2]
    exact trimmed

theorem begins_callout : calloutHandler.Begins (Placement.nothing.pieces delimiter) := by
  refine begins_nothing fun o answer args calm run differs => ?_
  have shown := run_ofText.1 run
  beta_reduce at shown
  cases header : calloutHeader? o.args with
  | none =>
    rw [header] at shown
    exact absurd (Except.ok.inj shown).symm differs
  | some titled =>
    obtain ⟨fold, title⟩ := titled
    have free : '\n' ∉ title := fun feed => args (subset_of_calloutHeader? header feed)
    rw [header] at shown
    rw [← Except.ok.inj shown]
    exact quiet_callout fold (Text.newline_notMem_lower free) (newline_notMem_capitalised free)
      (calm.of_isInfix (Text.trim_isInfix _))

theorem of_upTo?_eq_some {stop : Char} {text word rest : Text}
    (h : upTo? stop text = some (word, rest)) : word <:+: text ∧ rest <:+: text := by
  rw [upTo?] at h
  split at h
  · next kept left =>
    obtain ⟨rfl, rfl⟩ := Prod.mk.inj (Option.some.inj h)
    refine ⟨kept ▸ (List.takeWhile_prefix _).isInfix, ?_⟩
    exact ((List.suffix_cons _ _).trans (left ▸ List.drop_suffix _ _)).isInfix
  · exact nomatch h

/-- Both parts of a link are parts of the text it is found in. -/
theorem infix_of_linkForm {flag : Bool} {text label url : Text} {size : Nat}
    (h : linkForm flag text = some ((label, url), size)) : label <:+: text ∧ url <:+: text := by
  obtain ⟨inside, opened, h⟩ := Option.bind_eq_some_iff.1 h
  obtain ⟨⟨_, rest⟩, labelled, h⟩ := Option.bind_eq_some_iff.1 h
  obtain ⟨target, reopened, h⟩ := Option.bind_eq_some_iff.1 h
  obtain ⟨⟨_, others⟩, addressed, h⟩ := Option.bind_eq_some_iff.1 h
  obtain ⟨rfl, rfl⟩ := Prod.mk.inj (Prod.mk.inj (Option.some.inj h)).1
  have behind {bracket : Char} {text rest : Text} (read : Text.after? [bracket] text = some rest) :
      rest <:+: text := Text.after?_eq_some read ▸ (List.suffix_append _ _).isInfix
  obtain ⟨label', rest'⟩ := of_upTo?_eq_some labelled
  have inRest := (of_upTo?_eq_some addressed).1.trans (behind reopened)
  exact ⟨label'.trans (behind opened), (inRest.trans rest').trans (behind opened)⟩

theorem infix_of_firstFrom {offset : Nat} {flag : Bool} {text label url : Text} {start stop : Nat}
    (h : Search.firstFrom linkForm offset flag text = some ⟨start, stop, (label, url)⟩) :
    label <:+: text ∧ url <:+: text := by
  induction text generalizing offset flag with
  | nil => exact nomatch h
  | cons c text ih =>
    rw [Search.firstFrom] at h
    split at h
    · obtain ⟨hl, hu⟩ := ih h
      exact ⟨hl.trans (List.suffix_cons c text).isInfix, hu.trans (List.suffix_cons c text).isInfix⟩
    · next read =>
      obtain ⟨-, -, rfl⟩ := Located.mk.inj (Option.some.inj h)
      exact infix_of_linkForm read

theorem begins_button : buttonHandler.Begins (Placement.nothing.pieces delimiter) := by
  refine begins_nothing fun o answer args calm run differs => ?_
  have shown := run_ofText.1 run
  beta_reduce at shown
  cases linked : Search.firstFrom linkForm 0 true o.content with
  | none =>
    rw [linked] at shown
    exact absurd (Except.ok.inj shown).symm differs
  | some hit =>
    obtain ⟨label, url⟩ := infix_of_firstFrom linked
    rw [linked] at shown
    rw [← Except.ok.inj shown]
    exact quiet_link (calm.of_isInfix url)
      (newline_notMem_variantClass (by decide) (by decide) (Text.newline_notMem_trim args))
      (calm.of_isInfix label)

theorem begins_form : formHandler.Begins (Placement.nothing.pieces delimiter) := by
  refine begins_nothing fun o answer args calm run differs => ?_
  have kind := calm_of_notMem (Text.newline_notMem_orElse (Text.newline_notMem_trim args)
    (show '\n' ∉ ("contact" : Text) by decide))
  have opening : QuietLines ("<form class=\"form form-" ++
      Text.orElse (some (Text.trim o.args)) "contact" ++ "\" method=\"POST\" action=\"/api/" ++
      Text.orElse (some (Text.trim o.args)) "contact" ++ "\">\n") := by
    have action : Leads ("<form class=\"form form-" ++
        Text.orElse (some (Text.trim o.args)) "contact" ++ "\" method=\"POST\" action=\"/api/") :=
      Leads.next (by decide +kernel) kind (by decide +kernel) (by decide +kernel)
    exact action.lines kind (by decide +kernel) (by decide +kernel)
  have fields : ∀ f ∈ (((Text.lines o.content).map Text.trim).filter (· != [])).map field,
      QuietLines f := by
    refine List.forall_mem_map.2 fun label hl => quietLines_field ?_
    obtain ⟨line, hline, rfl⟩ := List.mem_map.1 (List.mem_filter.1 hl).1
    exact Text.newline_notMem_trim (Text.areLines_lines _ line hline)
  rw [← Except.ok.inj (run_ofText.1 run), List.flatMap_def, List.append_assoc]
  refine opening.quiet_append ((quiet_flatten_append_iff fun p hp => (fields p hp).2).2 ?_)
  exact ⟨fun p hp => (fields p hp).1, by decide +kernel⟩

theorem begins_listing (highlighter : Highlighter) :
    (Listing.handler highlighter).Begins (Placement.nothing.pieces delimiter) := by
  refine begins_nothing fun o answer args calm run differs => ?_
  obtain ⟨shown, -, same⟩ := Listing.run_handler_eq_ok_iff.1 run
  rw [Value.text.inj same]
  exact Listing.quiet_disarm shown

end Handlers

/-- Each block of the catalogue begins lines with the pieces that its name says. -/
theorem begins_catalogue (highlighter : Highlighter) (delimiter : Text) (defaultPriority : Int) :
    ∀ r ∈ catalogue highlighter delimiter defaultPriority, r.forms = .block →
      r.handler.Begins ((Placement.ofName r.name).pieces delimiter) := by
  have placed {name : Text} {placement : Placement} {handler : Handler}
      (h : handler.Begins (placement.pieces delimiter)) (same : Placement.ofName name = placement) :
      handler.Begins ((Placement.ofName name).pieces delimiter) := same ▸ h
  have wrapped : ∀ c ∈ containers, '\n' ∉ c.2 ∧ Placement.ofName c.1 = .body := by decide
  have closing : Quiet ("</div>" : Text) := by decide
  have inline : Forms.inline ≠ .block := by decide
  rw [catalogue]
  simp only [List.forall_mem_append, List.forall_mem_cons, List.forall_mem_map,
    -String.reduceToList]
  -- one goal for each part of the catalogue; notes on one line are not blocks
  refine ⟨⟨⟨⟨?_, fun c hc _ => ?_⟩, ?_⟩, fun n hn block => absurd block inline⟩, ?_⟩
  · exact ⟨fun _ => placed (begins_listing delimiter highlighter) (by decide),
      fun _ => placed (begins_sectioned delimiter .columns) (by decide),
      fun _ => placed (begins_sectioned delimiter .split) (by decide),
      fun _ => placed (begins_sectioned delimiter .stack) (by decide),
      fun _ => placed (begins_sectioned delimiter .grid) (by decide),
      fun _ => placed (begins_collection delimiter) (by decide),
      fun _ => placed (begins_sectioned delimiter .cards) (by decide),
      List.forall_mem_nil _⟩
  · obtain ⟨free, body⟩ := wrapped c hc
    exact placed (begins_wrapper delimiter (quiet_division free) closing) body
  · exact ⟨fun _ => placed (begins_wrapper delimiter (by decide +kernel) (by decide +kernel))
        (by decide),
      fun _ => placed (begins_hero delimiter) (by decide),
      fun _ => placed (begins_image delimiter) (by decide),
      fun _ => placed (begins_gallery delimiter) (by decide), fun block => absurd block inline,
      List.forall_mem_nil _⟩
  · exact ⟨fun _ => placed (begins_callout delimiter) (by decide),
      fun _ => placed (begins_button delimiter) (by decide),
      fun _ => placed (begins_form delimiter) (by decide),
      fun _ => placed (begins_branch delimiter) (by decide), List.forall_mem_nil _⟩

end Layout

namespace Engine

/-- What a block of the catalogue is replaced by has a marked line exactly where a piece that it
sets at the start of a line begins with a mark. Otherwise, if nothing else is marked, the handlers
to come and the policy find nothing to act on. -/
theorem quiet_replacement_iff {highlighter : Highlighter} {delimiter sections : Text}
    {defaultPriority : Int} {r : Registration}
    (mem : r ∈ Layout.catalogue highlighter delimiter defaultPriority) (block : r.forms = .block)
    {tail closing text answer : Text} {before body after : List Text}
    {page : Entries} {policy : LeftoverPolicy}
    (listed : HasBlock r.name tail before body closing after text)
    (plain : ∀ line ∈ body, isMarked line = false)
    (answered : r.handler.run (closedOccurrence page r.name tail body closing) =
      .ok (.text answer))
    (differs : answer ≠ (closedOccurrence page r.name tail body closing).raw) :
    let engine : Engine :=
      ⟨Layout.register highlighter delimiter { defaultPriority }, policy, sections⟩
    let o := closedOccurrence page r.name tail body closing
    (Quiet answer ↔
      ∀ piece ∈ (Layout.Placement.ofName r.name).pieces delimiter o, isMarked piece = false) ∧
    (Quiet answer → (∀ line ∈ before ++ after, isMarked line = false) →
      process engine page text =
        oneCall r o (Text.beforeLine before ++ answer ++ Text.afterLine after)) := by
  intro engine o
  have lines := Text.areLines_lines text
  rw [listed.written, Text.areLines_append, Text.areLines_cons, Text.areLines_append] at lines
  have args : '\n' ∉ o.args := Text.newline_notMem_trim fun feed =>
    lines.2.1 (List.mem_append_right _ feed)
  have calm : Calm o.content :=
    (calm_of_quiet (quiet_ofLines lines.2.2.1 plain)).of_isInfix (Text.trim_isInfix _)
  refine ⟨Layout.begins_catalogue highlighter delimiter defaultPriority r mem block o answer args
    calm answered differs, fun quiet outside => ?_⟩
  have registered : r ∈ engine.registry.registrations := by
    rw [show engine.registry = _ from Layout.register_empty highlighter delimiter defaultPriority]
    exact mem
  have only : OnlyBlock r.name tail before body closing after text := ⟨listed, outside⟩
  exact only.process_plain plain
    (Layout.wellFormed_register highlighter delimiter defaultPriority) registered block answered
    quiet

/-- A card with an indented mark behind its first line, which stays indented. -/
theorem quiet_replacement_of_card :
    let r : Registration :=
      ⟨"card", .block, Layout.wrapperPriority, Layout.divisionHandler "card"⟩
    let body : List Text := ["a", "  ::note hi"]
    let text : Text := "x\n::card\na\n  ::note hi\n::end\ny"
    let answer : Text := "<div class=\"card\">\n\na\n  ::note hi\n\n</div>\n"
    let engine : Engine := ⟨Layout.register Listing.monokai "---" {}, .strip, "---"⟩
    let o := closedOccurrence [] r.name [] body closingLine
    r ∈ Layout.catalogue Listing.monokai "---" 100 ∧ r.forms = .block ∧
      HasBlock r.name [] ["x"] body closingLine ["y"] text ∧
      (∀ line ∈ body, isMarked line = false) ∧ r.handler.run o = .ok (.text answer) ∧
      answer ≠ o.raw ∧
      (Quiet answer ↔
        ∀ piece ∈ (Layout.Placement.ofName r.name).pieces "---" o, isMarked piece = false) ∧
      process engine [] text =
        oneCall r o (Text.beforeLine ["x"] ++ answer ++ Text.afterLine ["y"]) := by
  intro r body text answer engine o
  have mem : r ∈ Layout.catalogue Listing.monokai "---" 100 := by
    have contained : ("card".toList, "card".toList) ∈ Layout.containers := by decide
    rw [Layout.catalogue]
    simp only [List.mem_append, -String.reduceToList]
    exact .inl (.inl (.inl (.inr (List.mem_map.2 ⟨_, contained, rfl⟩))))
  have listed : HasBlock r.name [] ["x"] body closingLine ["y"] text :=
    ⟨by decide, by decide, by decide, by decide⟩
  have plain : ∀ line ∈ body, isMarked line = false := by decide
  have wrapped : Layout.wrap ("<div class=\"" ++ "card" ++ "\">") "</div>" o.content = answer := by
    decide +kernel
  have answered : r.handler.run o = .ok (.text answer) :=
    congrArg (fun out => Except.ok (Value.text out)) wrapped
  have differs : answer ≠ o.raw := by decide +kernel
  obtain ⟨quiet, settled⟩ : _ ∧ (Quiet answer → _ → process engine [] text = _) :=
    quiet_replacement_iff mem rfl listed plain answered differs
  exact ⟨mem, rfl, listed, plain, answered, differs, quiet,
    settled (by decide +kernel) (by decide)⟩

/-- An indented note in a testimonial. Its line is not marked, but behind the markup of the
testimonial it is, and so the handler of notes, which comes later, is called with it. -/
theorem not_quiet_replacement :
    let body : List Text := ["  ::note hi"]
    let text : Text := "::testimonial\n  ::note hi\n::end"
    let answer : Text := "<blockquote class=\"testimonial\">\n\n::note hi\n\n</blockquote>\n"
    let engine : Engine := ⟨Layout.register Listing.monokai "---" {}, .warn, "---"⟩
    let o := closedOccurrence [] "testimonial" [] body closingLine
    HasBlock "testimonial" [] [] body closingLine [] text ∧
      (∀ line ∈ body, isMarked line = false) ∧
      Layout.testimonialHandler.run o = .ok (.text answer) ∧ answer ≠ o.raw ∧ ¬ Quiet answer ∧
      (process engine [] text).trace.calls.map (·.occurrence.raw) = [text, "::note hi".toList] ∧
      (process engine [] text).result = .ok ("<blockquote class=\"testimonial\">\n\n" ++
        "<aside class=\"note\">hi</aside>\n\n</blockquote>\n") := by
  intro body text answer engine o
  have sorted := Layout.sorted_register_levels Listing.monokai "---"
    (show Layout.wrapperPriority < 100 by decide)
  refine ⟨⟨by decide, by decide, by decide, by decide⟩, by decide, ?_, by decide +kernel,
    by decide +kernel, ?_, ?_⟩
  · have wrapped : Layout.wrap "<blockquote class=\"testimonial\">" "</blockquote>" o.content =
        answer := by decide +kernel
    exact congrArg (fun out => Except.ok (Value.text out)) wrapped
  · rw [process, expand, sorted]
    decide +kernel
  · rw [process, expand, sorted]
    decide +kernel

end Engine
end PageDirectives
