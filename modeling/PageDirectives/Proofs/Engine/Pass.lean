import PageDirectives.Proofs.Directive.LineScan
import PageDirectives.Proofs.Engine.Steps
import PageDirectives.Proofs.Text.LineClearing
/-!
One pass of the engine: one registration in one form over the whole text. In terms of lines a pass
exchanges the occurrences that a search from line to line finds for what their handler makes of
them, and calls the handler once for each, in document order. Running the engine is running its
passes one after another and settling what is left.
-/
namespace PageDirectives

/-- A step with a result: the result, and the calls on the way to it. -/
structure Traced.Yields {α : Type} (x : Traced α) (a : α) (calls : List Call) : Prop where
  result : x.result = .ok a
  calls : x.trace.calls = calls

namespace Traced.Yields

variable {α β : Type}

theorem ofPure (a : α) : Yields (Pure.pure a : Traced α) a [] := ⟨rfl, rfl⟩

theorem ofLog (notes : List Note) : Yields (log notes) () [] := ⟨rfl, rfl⟩

theorem ofCall (c : Call) : Yields (call c) () [c] := ⟨rfl, rfl⟩

theorem ofOk {x : Except NumberError α} {a : α} (h : x = .ok a) : Yields (ofExcept x) a [] :=
  ⟨h, rfl⟩

theorem bind {x : Traced α} {f : α → Traced β} {a : α} {b : β} {first second : List Call}
    (hx : Yields x a first) (hf : Yields (f a) b second) :
    Yields (x >>= f) b (first ++ second) := by
  obtain ⟨trace, result⟩ := bind_of_ok (f := f) hx.result
  refine ⟨result.trans hf.result, ?_⟩
  rw [trace, Trace.calls_append, hx.calls, hf.calls]

theorem thenLog {f : Unit → Traced β} {b : β} {notes : List Note} {calls : List Call}
    (hf : Yields (f ()) b calls) : Yields (log notes >>= f) b calls :=
  (ofLog notes).bind hf

end Traced.Yields

namespace Handler

/-- The text that a handler answers with, where null stands for no text at all. A handler that
fails, or whose answer has no text, gives none. -/
def answer? (h : Handler) (o : Directive.Occurrence) : Option Text :=
  match h.run o with
  | .error _ => none
  | .ok .null => some []
  | .ok v => v.display.toOption

/-- What a handler leaves in the place of an occurrence. -/
def outcome (h : Handler) (o : Directive.Occurrence) : Text := (h.answer? o).getD o.raw

/-- A handler fails on an occurrence with something that can be written into the log. -/
def Fails (h : Handler) (o : Directive.Occurrence) : Prop :=
  ∃ failure message, h.run o = .error failure ∧ failure.message = .ok message

/-- A handler fails on an occurrence or answers with a text. -/
def Settles (h : Handler) (o : Directive.Occurrence) : Prop := h.Fails o ∨ (h.answer? o).isSome

variable {h : Handler} {o : Directive.Occurrence}

theorem settles_of_answer {text : Text} (ha : h.answer? o = some text) : h.Settles o :=
  .inr (by rw [ha]; rfl)

theorem outcome_of_answer {text : Text} (ha : h.answer? o = some text) : h.outcome o = text := by
  rw [outcome, ha, Option.getD_some]

theorem outcome_of_error {failure : Failure} (he : h.run o = .error failure) :
    h.outcome o = o.raw := by
  rw [outcome, answer?, he, Option.getD_none]

end Handler

namespace Engine

theorem eq_ok_of_toOption {ε α : Type} {x : Except ε α} {a : α} (h : x.toOption = some a) :
    x = .ok a := by
  cases x with
  | error e => simp [Except.toOption] at h
  | ok b => rw [Option.some.inj h]

theorem replacement_yields {r : Registration} {o : Directive.Occurrence}
    (h : r.handler.Settles o) :
    (replacement r o).Yields (r.handler.outcome o) [⟨r.handler.origin, o⟩] := by
  refine (Traced.Yields.ofCall _).bind ?_
  rcases h with ⟨failure, message, he, worded⟩ | ha
  · rw [Handler.outcome_of_error he, he]
    exact (Traced.Yields.ofOk worded).bind (Traced.Yields.thenLog (Traced.Yields.ofPure _))
  · obtain ⟨text, ha⟩ := Option.isSome_iff_exists.1 ha
    rw [Handler.outcome_of_answer ha]
    cases hr : r.handler.run o with
    | error failure => simp [Handler.answer?, hr] at ha
    | ok v =>
      rw [Handler.answer?, hr] at ha
      cases v with
      | null =>
        rw [← Option.some.inj ha]
        exact Traced.Yields.ofPure []
      | _ => exact Traced.Yields.ofOk (eq_ok_of_toOption ha)

theorem replacements_yields {r : Registration} {os : List Directive.Occurrence}
    (h : ∀ o ∈ os, r.handler.Settles o) :
    (replacements r os).Yields (os.map r.handler.outcome) (os.map (Call.mk r.handler.origin)) := by
  induction os with
  | nil => exact Traced.Yields.ofPure []
  | cons o os ih =>
    have others := ih fun p hp => h p (List.mem_cons_of_mem o hp)
    have first := replacement_yields (h o List.mem_cons_self)
    have calls : (o :: os).map (Call.mk r.handler.origin) =
        [⟨r.handler.origin, o⟩] ++ (os.map (Call.mk r.handler.origin) ++ []) := by simp
    rw [calls]
    exact first.bind (others.bind (Traced.Yields.ofPure _))

/-- A pass splices the outcomes into the places of the occurrences, with a call for each. -/
theorem applyForm_splices {r : Registration} {page : Entries} {text : Text} {form : Form}
    (h : ∀ s ∈ Directive.scan text r.name form page, r.handler.Settles s.found) :
    (applyForm r page text form).Yields
      (Splice.behind text 0 ((Directive.scan text r.name form page).map fun s =>
        ((s.start, s.stop), r.handler.outcome s.found)))
      ((Directive.scan text r.name form page).map fun s => ⟨r.handler.origin, s.found⟩) := by
  have answered := replacements_yields (List.forall_mem_map.2 h)
  rw [applyForm]
  generalize Directive.scan text r.name form page = hits at answered ⊢
  cases hits with
  | nil => exact Traced.Yields.ofPure text
  | cons hit hits =>
    have calls : ((hit :: hits).map fun s => (⟨r.handler.origin, s.found⟩ : Call)) =
        ((hit :: hits).map (·.found)).map (Call.mk r.handler.origin) ++ [] := by simp
    rw [calls]
    refine Traced.Yields.thenLog (answered.bind ?_)
    rw [List.map_map, List.zip_map']
    exact Traced.Yields.ofPure _

/-- A pass exchanges each occurrence for its handler's outcome, from top to bottom. -/
theorem applyForm_yields {r : Registration} (free : '\n' ∉ r.name) (page : Entries) (form : Form)
    {lines : List Text} (ls : Text.AreLines lines) (ne : lines ≠ [])
    (h : ∀ o ∈ (Directive.reader r.name page form).found lines, r.handler.Settles o) :
    (applyForm r page (Text.ofLines lines) form).Yields
      (Text.ofLines ((Directive.reader r.name page form).exchange r.handler.outcome lines))
      (((Directive.reader r.name page form).found lines).map (Call.mk r.handler.origin)) := by
  have reads := Directive.recogniser_reads free page form
  have scanned : (Directive.scan (Text.ofLines lines) r.name form page).map (·.found) =
      (Directive.reader r.name page form).found lines := by
    rw [Directive.scan, reads.all_eq, Text.lines_ofLines ls ne, LineReader.map_found_allFrom]
  rw [← scanned] at h ⊢
  have step : (applyForm r page (Text.ofLines lines) form).Yields _ _ :=
    applyForm_splices (List.forall_mem_map.1 h)
  rw [Directive.scan, Search.behind_all, reads.exchange_eq, Text.lines_ofLines ls ne] at step
  rw [List.map_map]
  exact step

theorem applyForm_idle {r : Registration} (free : '\n' ∉ r.name) (page : Entries) (form : Form)
    {lines : List Text} (ls : Text.AreLines lines) (ne : lines ≠ [])
    (clear : (Directive.reader r.name page form).found lines = []) :
    (applyForm r page (Text.ofLines lines) form).Yields (Text.ofLines lines) [] := by
  have step := applyForm_yields free page form ls ne (by simp [clear])
  rwa [LineReader.exchange_of_found_eq_nil clear, clear] at step

/-- The passes of registrations: each in all its forms before the next. -/
def passes (registrations : List Registration) : List (Registration × Form) :=
  registrations.flatMap fun r => r.forms.list.map (r, ·)

theorem mem_passes {registrations : List Registration} {r : Registration} {form : Form} :
    (r, form) ∈ passes registrations ↔ r ∈ registrations ∧ r.forms.has form = true := by
  simp only [passes, List.mem_flatMap, List.mem_map, Prod.mk.injEq, Forms.list, List.mem_filter]
  constructor
  · rintro ⟨r, hr, form, ⟨-, has⟩, rfl, rfl⟩
    exact ⟨hr, has⟩
  · rintro ⟨hr, has⟩
    exact ⟨r, hr, form, ⟨by cases form <;> simp, has⟩, rfl, rfl⟩

/-- A run of passes from one text to another, with the calls it makes. -/
inductive Run (page : Entries) : List (Registration × Form) → Text → Text → List Call → Prop
  | done (text : Text) : Run page [] text text []
  | pass {r : Registration} {form : Form} {others : List (Registration × Form)}
      {text next out : Text} {first rest : List Call} :
      (applyForm r page text form).Yields next first → Run page others next out rest →
      Run page ((r, form) :: others) text out (first ++ rest)

namespace Run

variable {page : Entries}

/-- The passes of one registration are one step of the engine. -/
theorem exists_forms {r : Registration} {forms : List Form}
    {others : List (Registration × Form)} {text out : Text} {calls : List Call}
    (h : Run page (forms.map (r, ·) ++ others) text out calls) :
    ∃ next first rest, calls = first ++ rest ∧
      (forms.foldlM (applyForm r page) text).Yields next first ∧ Run page others next out rest := by
  induction forms generalizing text calls with
  | nil => exact ⟨text, [], calls, rfl, Traced.Yields.ofPure text, h⟩
  | cons form forms ih =>
    cases h with
    | pass step run =>
      obtain ⟨next, second, rest, rfl, steps, run⟩ := ih run
      refine ⟨next, _ ++ second, rest, by rw [List.append_assoc], ?_, run⟩
      rw [List.foldlM_cons]
      exact step.bind steps

theorem foldlM_yields {registrations : List Registration} {text out : Text} {calls : List Call}
    (h : Run page (passes registrations) text out calls) :
    (registrations.foldlM (fun text r => applyForms r page text) text).Yields out calls := by
  induction registrations generalizing text calls with
  | nil =>
    cases h
    exact Traced.Yields.ofPure _
  | cons r registrations ih =>
    rw [passes, List.flatMap_cons] at h
    obtain ⟨next, first, rest, rfl, step, run⟩ := exists_forms h
    rw [List.foldlM_cons]
    exact step.bind (ih run)

end Run

theorem expand_yields {engine : Engine} {page : Entries} {text out : Text} {calls : List Call}
    (h : Run page (passes engine.registry.sorted) text out calls) :
    (expand engine page text).Yields out calls :=
  h.foldlM_yields

def settled (policy : LeftoverPolicy) (text : Text) : Text :=
  match policy with
  | .warn => text
  | .strip => if Directive.leftovers text = [] then text else Directive.stripLeftovers text

theorem settle_yields (policy : LeftoverPolicy) (text : Text) :
    (settle policy text).Yields (settled policy text) [] := by
  refine Traced.Yields.thenLog ?_
  cases policy <;> exact Traced.Yields.ofPure _

theorem process_yields {engine : Engine} {page : Entries} {text out : Text} {calls : List Call}
    (h : Run page (passes engine.registry.sorted) text out calls) :
    (process engine page text).Yields (settled engine.policy out) calls := by
  rw [← List.append_nil calls]
  exact (expand_yields h).bind (settle_yields engine.policy out)

end Engine
end PageDirectives
