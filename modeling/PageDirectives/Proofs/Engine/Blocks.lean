import PageDirectives.Proofs.Directive.Opening
import PageDirectives.Proofs.Engine.Nesting
/-!
Blocks between lines that nobody reads. A pass goes past every line that opens no directive of its
name, so a block is still as it was written when the pass of its own name comes. Where nothing else
is marked and it is answered without marked lines, the engine has nothing more to do.
-/
namespace PageDirectives

theorem Traced.bind_eq_of_pure {α β : Type} {x : Traced α} {f : α → Traced β} {trace : Trace}
    {a : α} {b : β} (hx : x = ⟨trace, .ok a⟩) (hf : f a = pure b) :
    x >>= f = ⟨trace, .ok b⟩ := by
  have none : trace ++ {} = trace := by
    change Trace.mk (trace.notes ++ []) (trace.calls ++ []) = trace
    rw [List.append_nil, List.append_nil]
  rw [hx]
  change Traced.mk (trace ++ (f a).trace) (f a).result = _
  rw [hf]
  exact congrArg (Traced.mk · (.ok b)) none

namespace Engine

open Directive

theorem foldlM_eq_pure {α β : Type} {f : β → α → Traced β} {as : List α} {b : β}
    (idle : ∀ a ∈ as, f b a = pure b) : as.foldlM f b = pure b := by
  induction as with
  | nil => rfl
  | cons a as ih =>
    rw [List.foldlM_cons, idle a List.mem_cons_self]
    exact ih fun x hx => idle x (List.mem_cons_of_mem a hx)

/-- Registrations in the order in which they run, each with a name of its own that can be
registered. -/
structure Order (order : List Registration) : Prop where
  valid : ∀ r ∈ order, Text.isName r.name = true
  free : ∀ r ∈ order, isReserved r.name = false
  distinct : (order.map (·.name)).Nodup

theorem order_sorted {registry : Registry} (wf : registry.WellFormed) : Order registry.sorted where
  valid := wf.isName_of_mem_sorted
  free r hr := wf.notReserved r (Registry.mem_sorted.1 hr)
  distinct := wf.sorted_distinct

theorem Order.sublist {order part : List Registration} (h : Order order)
    (sub : part.Sublist order) : Order part where
  valid r hr := h.valid r (sub.subset hr)
  free r hr := h.free r (sub.subset hr)
  distinct := h.distinct.sublist (sub.map _)

theorem Order.newline_notMem {order : List Registration} (h : Order order) {r : Registration}
    (hr : r ∈ order) : '\n' ∉ r.name := Text.newline_notMem_of_isName (h.valid r hr)

/-- The other registrations around one have other names. -/
theorem Order.name_ne {front back : List Registration} {r s : Registration}
    (h : Order (front ++ r :: back)) (hs : s ∈ front ++ back) : s.name ≠ r.name := by
  have distinct := (List.perm_middle.map _).nodup_iff.1 h.distinct
  exact Registry.name_ne_of_mem distinct hs

/-- A text after some registrations have run, one after another. -/
def runAll (order : List Registration) (page : Entries) (text : Text) : Traced Text :=
  order.foldlM (fun text r => applyForms r page text) text

variable {page : Entries} {text answer : Text} {r : Registration} {order : List Registration}

theorem runAll_cons (page : Entries) (text : Text) :
    runAll (r :: order) page text = applyForms r page text >>= runAll order page :=
  List.foldlM_cons

section Unread

/-- A registration does nothing to a text in which no line opens a directive of its name. -/
theorem applyForms_of_unread (free : '\n' ∉ r.name)
    (unread : ∀ line ∈ Text.lines text, opening? r.name line = none) :
    applyForms r page text = pure text := by
  refine foldlM_eq_pure fun form _ => ?_
  have unreadBy (line : Text) (hl : line ∈ Text.lines text) (later : List Text) :
      reader r.name page form line later = none := reader_of_opening? (unread line hl) later
  have nothing := LineReader.found_append_of_none unreadBy []
  rw [List.append_nil, LineReader.found_nil] at nothing
  have scanned : scan text r.name form page = [] := by
    rw [scan, (recogniser_reads free page form).all_eq]
    exact List.map_eq_nil_iff.1 nothing
  rw [applyForm, scanned]

theorem runAll_append_of_unread {front : List Registration} (free : ∀ s ∈ front, '\n' ∉ s.name)
    (unread : ∀ s ∈ front, ∀ line ∈ Text.lines text, opening? s.name line = none)
    (back : List Registration) : runAll (front ++ back) page text = runAll back page text := by
  induction front with
  | nil => rfl
  | cons s front ih =>
    rw [List.forall_mem_cons] at free unread
    rw [List.cons_append, runAll_cons, applyForms_of_unread free.1 unread.1]
    exact ih free.2 unread.2

theorem runAll_of_quiet (free : ∀ r ∈ order, '\n' ∉ r.name) (quiet : Quiet text) :
    runAll order page text = pure text :=
  foldlM_eq_pure fun r hr =>
    applyForms_of_unread (free r hr) fun line hl => opening?_of_not_marked (quiet line hl)

theorem settle_of_quiet (policy : LeftoverPolicy) (quiet : Quiet text) :
    settle policy text = pure text := by
  cases policy <;> simp only [settle, leftovers_of_quiet quiet] <;> rfl

end Unread

section Single

variable {tail closing : Text} {before body after : List Text}

/-- A run that hands one occurrence to one handler and logs no more than that it was found. -/
def oneCall (r : Registration) (o : Occurrence) (out : Text) : Traced Text :=
  ⟨⟨[matchNote r o.form 1], [⟨r.handler.origin, o⟩]⟩, .ok out⟩

theorem applyForm_single {form : Form} {s : Located Occurrence}
    (scanned : scan text r.name form page = [s])
    (answered : r.handler.run s.found = .ok (.text answer)) :
    applyForm r page text form =
      ⟨⟨[matchNote r form 1], [⟨r.handler.origin, s.found⟩]⟩,
        .ok (Splice.behind text 0 [((s.start, s.stop), answer)])⟩ := by
  have replaced : replacement r s.found = ⟨⟨[], [⟨r.handler.origin, s.found⟩]⟩, .ok answer⟩ := by
    rw [replacement, answered]
    rfl
  rw [applyForm, scanned]
  simp only [List.map_cons, List.map_nil, replacements, replaced]
  rfl

/-- However it answers, the handler is called with the first occurrence that is found. -/
theorem mem_calls_applyForm_cons {form : Form} {s : Located Occurrence}
    {others : List (Located Occurrence)} (scanned : scan text r.name form page = s :: others) :
    ⟨r.handler.origin, s.found⟩ ∈ (applyForm r page text form).trace.calls := by
  rw [applyForm, scanned]
  refine Traced.mem_calls_bind_of_ok rfl (Traced.mem_calls_bind ?_)
  rw [List.map_cons, replacements]
  refine Traced.mem_calls_bind ?_
  rw [(replacement_eq r s.found).1]
  exact List.mem_singleton_self _

/-- A text with one block, outside of which no line opens another of its name. -/
structure SingleBlock (name tail : Text) (before body : List Text) (closing : Text)
    (after : List Text) (text : Text) : Prop
    extends HasBlock name tail before body closing after text where
  around : ∀ line ∈ before ++ after, opening? name line = none

theorem SingleBlock.pass {name : Text} (single : SingleBlock name tail before body closing after text)
    (page : Entries) (image : Occurrence → Text) :
    (reader name page .block).found (Text.lines text) =
        [closedOccurrence page name tail body closing] ∧
      (reader name page .block).exchange image (Text.lines text) = before ++
        (Text.lines (image (closedOccurrence page name tail body closing)) ++ after) := by
  have unread (line : Text) (hl : line ∈ before ++ after) (later : List Text) :
      reader name page .block line later = none := reader_of_opening? (single.around line hl) later
  obtain ⟨above, below⟩ := List.forall_mem_append.1 unread
  obtain ⟨found, exchanged⟩ := pass_closed image after single.ends single.inside single.closed
  have foundBelow := LineReader.found_append_of_none below []
  have exchangedBelow := LineReader.exchange_append_of_none image below []
  rw [List.append_nil] at foundBelow exchangedBelow
  rw [single.written, LineReader.found_append_of_none above,
    LineReader.exchange_append_of_none image above, found, exchanged, foundBelow, exchangedBelow,
    LineReader.found_nil, LineReader.exchange_nil, List.append_nil]
  exact ⟨rfl, rfl⟩

variable (single : SingleBlock r.name tail before body closing after text)

include single

theorem SingleBlock.exists_scan (free : '\n' ∉ r.name) (page : Entries) :
    ∃ s, scan text r.name .block page = [s] ∧
      s.found = closedOccurrence page r.name tail body closing := by
  rw [← List.map_eq_singleton_iff, scan, (recogniser_reads free page .block).all_eq,
    LineReader.map_found_allFrom, (single.pass page fun _ => []).1]

theorem SingleBlock.applyForms_eq (free : '\n' ∉ r.name) (block : r.forms = .block)
    (answered : r.handler.run (closedOccurrence page r.name tail body closing) =
      .ok (.text answer)) :
    applyForms r page text =
      oneCall r (closedOccurrence page r.name tail body closing)
        (Text.beforeLine before ++ answer ++ Text.afterLine after) := by
  obtain ⟨s, scanned, same⟩ := single.exists_scan free page
  -- splicing at the places that are found is exchanging their lines
  have spliced : Splice.behind text 0 ((scan text r.name .block page).map fun s =>
      ((s.start, s.stop), answer)) = _ := Search.behind_all (fun _ => answer) text
  rw [scanned, (recogniser_reads free page .block).exchange_eq,
    (single.pass page fun _ => answer).2, Text.ofLines_lines_between, List.map_singleton] at spliced
  have forms : r.forms.list = [.block] := by
    rw [block]
    rfl
  rw [← same] at answered
  rw [applyForms, forms, List.foldlM_cons, applyForm_single scanned answered, spliced, same]
  exact Traced.bind_eq_of_pure rfl rfl

theorem SingleBlock.mem_calls (free : '\n' ∉ r.name) (block : r.forms = .block) :
    ⟨r.handler.origin, closedOccurrence page r.name tail body closing⟩ ∈
      (applyForms r page text).trace.calls := by
  obtain ⟨s, scanned, same⟩ := single.exists_scan free page
  have forms : r.forms.list = [.block] := by
    rw [block]
    rfl
  rw [applyForms, forms, List.foldlM_cons, ← same]
  exact Traced.mem_calls_bind (mem_calls_applyForm_cons scanned)

end Single

section Only

variable {tail closing : Text} {before body after : List Text} {front back : List Registration}

/-- A text with one block, outside of which no line is marked. -/
structure OnlyBlock (name tail : Text) (before body : List Text) (closing : Text)
    (after : List Text) (text : Text) : Prop
    extends HasBlock name tail before body closing after text where
  outside : ∀ line ∈ before ++ after, isMarked line = false

variable {name : Text} (only : OnlyBlock name tail before body closing after text)

include only

theorem OnlyBlock.single : SingleBlock name tail before body closing after text where
  toHasBlock := only.toHasBlock
  around line hl := opening?_of_not_marked (only.outside line hl)

theorem OnlyBlock.quiet_replaced (quiet : Quiet answer) :
    Quiet (Text.beforeLine before ++ answer ++ Text.afterLine after) := by
  have lines := Text.areLines_lines text
  rw [only.written, Text.areLines_append, Text.areLines_cons, Text.areLines_append,
    Text.areLines_cons] at lines
  obtain ⟨above, below⟩ := List.forall_mem_append.1 only.outside
  rw [← Text.ofLines_lines_between before answer after]
  refine quiet_ofLines ?_ ?_
  · exact Text.areLines_append.2
      ⟨lines.1, Text.areLines_append.2 ⟨Text.areLines_lines answer, lines.2.2.2.2⟩⟩
  · exact List.forall_mem_append.2 ⟨above, List.forall_mem_append.2 ⟨quiet, below⟩⟩

/-- Where no line of the body is marked either, only the name of the block is read. -/
theorem OnlyBlock.unread (plain : ∀ line ∈ body, isMarked line = false)
    (valid : Text.isName name = true) {other : Text} (valid' : Text.isName other = true)
    (free : isReserved other = false) (ne : other ≠ name) :
    ∀ line ∈ Text.lines text, opening? other line = none := by
  obtain ⟨above, below⟩ := List.forall_mem_append.1 only.outside
  have unmarked {lines : List Text} (h : ∀ line ∈ lines, isMarked line = false) :
      ∀ line ∈ lines, opening? other line = none :=
    fun line hl => opening?_of_not_marked (h line hl)
  rw [only.written, List.forall_mem_append, List.forall_mem_cons, List.forall_mem_append,
    List.forall_mem_cons]
  exact ⟨unmarked above, opening?_openingLine_of_ne valid' valid ne only.ends, unmarked plain,
    opening?_of_closes valid' free only.closed, unmarked below⟩

end Only

section Run

variable {tail closing : Text} {before body after : List Text} {front back : List Registration}

theorem process_of_quiet {engine : Engine} {trace : Trace} {out : Text}
    (run : runAll engine.registry.sorted page text = ⟨trace, .ok out⟩) (quiet : Quiet out) :
    process engine page text = ⟨trace, .ok out⟩ :=
  Traced.bind_eq_of_pure run (settle_of_quiet engine.policy quiet)

theorem mem_calls_process {engine : Engine} {c : Call}
    (hc : c ∈ (runAll engine.registry.sorted page text).trace.calls) :
    c ∈ (process engine page text).trace.calls := Traced.mem_calls_bind hc

variable (only : OnlyBlock r.name tail before body closing after text)

include only

theorem OnlyBlock.runAll_cons_eq (order : Order (r :: back)) (block : r.forms = .block)
    (answered : r.handler.run (closedOccurrence page r.name tail body closing) =
      .ok (.text answer)) (quiet : Quiet answer) :
    runAll (r :: back) page text =
      oneCall r (closedOccurrence page r.name tail body closing)
        (Text.beforeLine before ++ answer ++ Text.afterLine after) := by
  have free := order.newline_notMem List.mem_cons_self
  have others : runAll back page (Text.beforeLine before ++ answer ++ Text.afterLine after) =
      pure (Text.beforeLine before ++ answer ++ Text.afterLine after) :=
    runAll_of_quiet (fun s hs => order.newline_notMem (List.mem_cons_of_mem r hs))
      (only.quiet_replaced quiet)
  rw [runAll_cons]
  exact Traced.bind_eq_of_pure (only.single.applyForms_eq free block answered) others

/-- A handler that runs before all others and answers its only block quietly leaves nothing to
them. -/
theorem OnlyBlock.process {engine : Engine} (wf : engine.registry.WellFormed)
    (first : engine.registry.sorted = r :: back) (block : r.forms = .block)
    (answered : r.handler.run (closedOccurrence page r.name tail body closing) =
      .ok (.text answer)) (quiet : Quiet answer) :
    process engine page text =
      oneCall r (closedOccurrence page r.name tail body closing)
        (Text.beforeLine before ++ answer ++ Text.afterLine after) := by
  have order := order_sorted wf
  rw [first] at order
  refine process_of_quiet ?_ (only.quiet_replaced quiet)
  rw [first]
  exact only.runAll_cons_eq order block answered quiet

variable (plain : ∀ line ∈ body, isMarked line = false)

include plain

/-- Until the pass of its own name a block without marked lines stays as it is. -/
theorem OnlyBlock.runAll_append (order : Order (front ++ r :: back)) (page : Entries) :
    runAll (front ++ r :: back) page text = runAll (r :: back) page text := by
  have mem : r ∈ front ++ r :: back := List.mem_append_right _ List.mem_cons_self
  have first (s : Registration) (hs : s ∈ front) : s ∈ front ++ r :: back :=
    List.mem_append_left _ hs
  refine runAll_append_of_unread (fun s hs => order.newline_notMem (first s hs)) ?_ _
  exact fun s hs => only.unread plain (order.valid r mem) (order.valid s (first s hs))
    (order.free s (first s hs)) (order.name_ne (List.mem_append_left back hs))

theorem OnlyBlock.runAll_eq (order : Order (front ++ r :: back)) (block : r.forms = .block)
    (answered : r.handler.run (closedOccurrence page r.name tail body closing) =
      .ok (.text answer)) (quiet : Quiet answer) :
    runAll (front ++ r :: back) page text =
      oneCall r (closedOccurrence page r.name tail body closing)
        (Text.beforeLine before ++ answer ++ Text.afterLine after) := by
  rw [only.runAll_append plain order]
  exact only.runAll_cons_eq (order.sublist (List.sublist_append_right _ _)) block answered quiet

theorem OnlyBlock.mem_calls_runAll (order : Order (front ++ r :: back)) (block : r.forms = .block)
    (page : Entries) : ⟨r.handler.origin, closedOccurrence page r.name tail body closing⟩ ∈
      (runAll (front ++ r :: back) page text).trace.calls := by
  have mem : r ∈ front ++ r :: back := List.mem_append_right _ List.mem_cons_self
  rw [only.runAll_append plain order, runAll_cons]
  exact Traced.mem_calls_bind (only.single.mem_calls (order.newline_notMem mem) block)

/-- A handler that answers a block without marked lines quietly has done all there is to do. -/
theorem OnlyBlock.process_plain {engine : Engine} (wf : engine.registry.WellFormed)
    (mem : r ∈ engine.registry.registrations) (block : r.forms = .block)
    (answered : r.handler.run (closedOccurrence page r.name tail body closing) =
      .ok (.text answer)) (quiet : Quiet answer) :
    Engine.process engine page text =
      oneCall r (closedOccurrence page r.name tail body closing)
        (Text.beforeLine before ++ answer ++ Text.afterLine after) := by
  obtain ⟨front, back, cut⟩ := List.append_of_mem (Registry.mem_sorted.2 mem)
  have order := order_sorted wf
  rw [cut] at order
  refine process_of_quiet ?_ (only.quiet_replaced quiet)
  rw [cut]
  exact only.runAll_eq plain order block answered quiet

end Run

end Engine

end PageDirectives
