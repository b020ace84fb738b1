import Mathlib.Data.List.Nodup
import PageDirectives.Proofs.Directive.Admission
/-!
Runs of registering, in which any number of calls may fail, whatever they give. What a registry
holds is a function of the registrations that were accepted so far: the last one for each name, in
the order in which the names were first accepted. One accepted registration keeps this, and so does
a run. The order in which handlers run is the stable sort of that by priority.
-/
namespace PageDirectives.Registry

/-- What a call of registering gives: a name, options or a handler in their place, and an offer. -/
structure Request where
  name : Value
  slot : Slot
  offer : Offer

/-- The registry behind a request, which a refusal leaves as it was. -/
def after (registry : Registry) (q : Request) : Registry :=
  match registry.register q.name q.slot q.offer with
  | .ok (_, next) => next
  | .error _ => registry

/-- The registry behind a run of requests. -/
def afterAll (registry : Registry) (requests : List Request) : Registry :=
  requests.foldl after registry

theorem afterAll_cons (registry : Registry) (q : Request) (rest : List Request) :
    registry.afterAll (q :: rest) = (registry.after q).afterAll rest :=
  rfl

theorem afterAll_append (registry : Registry) (before rest : List Request) :
    registry.afterAll (before ++ rest) = (registry.afterAll before).afterAll rest :=
  List.foldl_append

/-- What a run of requests was given, without the refusals. -/
def accepted (registry : Registry) : List Request → List Registration
  | [] => []
  | q :: rest =>
    match registry.register q.name q.slot q.offer with
    | .ok (r, next) => r :: next.accepted rest
    | .error _ => registry.accepted rest

/-- A registry holds the last registration of every name that was accepted, and the names are in
the order in which they were accepted first. -/
structure Holds (registry : Registry) (past : List Registration) : Prop where
  names : registry.names = (past.map (·.name)).eraseDups
  get? : ∀ name, registry.get? name = past.findRev? (·.name == name)

theorem find?_put (r : Registration) (registrations : List Registration) (name : Text) :
    (put r registrations).find? (·.name == name) =
      if r.name = name then some r else registrations.find? (·.name == name) := by
  induction registrations with
  | nil => by_cases h : r.name = name <;> simp [put, h]
  | cons first rest ih =>
    by_cases same : first.name = r.name
    · by_cases h : r.name = name <;> simp [put, same, h]
    · rw [put, if_neg same, List.find?_cons, List.find?_cons]
      by_cases h : first.name = name
      · simp [h, Ne.symm (h ▸ same)]
      · rw [beq_false_of_ne h]
        exact ih

theorem holds_empty (defaultPriority : Int) : Holds { defaultPriority } [] :=
  ⟨rfl, fun _ => rfl⟩

theorem Holds.with_put {registry : Registry} {past : List Registration} (h : registry.Holds past)
    (r : Registration) :
    Holds { registry with registrations := put r registry.registrations } (past ++ [r]) where
  names := by
    have kept : registry.registrations.map (·.name) = (past.map (·.name)).eraseDups := h.names
    have known : r.name ∈ (past.map (·.name)).eraseDups ↔ r.name ∈ past.map (·.name) :=
      List.mem_eraseDups
    rw [Registry.names, map_name_put, kept, List.map_append, List.map_singleton,
      List.eraseDups_append, List.removeAll]
    by_cases old : r.name ∈ past.map (·.name)
    · rw [if_pos (known.2 old), List.filter_cons_of_neg (by simpa using old), List.filter_nil,
        List.eraseDups_nil, List.append_nil]
    · rw [if_neg (mt known.1 old), List.filter_cons_of_pos (by simpa using old), List.filter_nil]
      rfl
  get? name := by
    rw [Registry.get?, find?_put, List.findRev?_eq_find?_reverse, List.reverse_append,
      List.reverse_singleton, List.singleton_append, List.find?_cons,
      ← List.findRev?_eq_find?_reverse, ← h.get? name, Registry.get?]
    by_cases same : r.name = name
    · simp [same]
    · rw [if_neg same, beq_false_of_ne same]

theorem Holds.afterAll {registry : Registry} {past : List Registration} (h : registry.Holds past)
    (requests : List Request) :
    (registry.afterAll requests).Holds (past ++ registry.accepted requests) := by
  induction requests generalizing registry past with
  | nil => simpa [Registry.afterAll, accepted] using h
  | cons q rest ih =>
    rw [afterAll_cons, accepted, after]
    cases called : registry.register q.name q.slot q.offer with
    | error e => exact ih h
    | ok result =>
      obtain ⟨r, next⟩ := result
      obtain ⟨-, rfl⟩ := register_eq_ok_iff.1 called
      rw [List.append_cons]
      exact ih (h.with_put r)

theorem WellFormed.afterAll {registry : Registry} (h : registry.WellFormed)
    (requests : List Request) : (registry.afterAll requests).WellFormed := by
  induction requests generalizing registry with
  | nil => exact h
  | cons q rest ih =>
    refine ih ?_
    rw [after]
    cases called : registry.register q.name q.slot q.offer with
    | error e => exact h
    | ok result =>
      obtain ⟨r, next⟩ := result
      obtain ⟨⟨named, -⟩, rfl⟩ := register_eq_ok_iff.1 called
      exact h.put named.valid named.free

/-- A refused request has no influence on what comes behind it either. -/
theorem afterAll_of_refused {registry : Registry} {before : List Request} {q : Request}
    {e : AddError}
    (refused : (registry.afterAll before).register q.name q.slot q.offer = .error e)
    (rest : List Request) :
    registry.afterAll (before ++ q :: rest) = registry.afterAll (before ++ rest) := by
  have same : (registry.afterAll before).after q = registry.afterAll before := by
    rw [after, refused]
  rw [afterAll_append, afterAll_append, afterAll_cons, same]

theorem defaultPriority_afterAll (registry : Registry) (requests : List Request) :
    (registry.afterAll requests).defaultPriority = registry.defaultPriority := by
  induction requests generalizing registry with
  | nil => rfl
  | cons q rest ih =>
    rw [afterAll_cons, ih, after]
    cases called : registry.register q.name q.slot q.offer with
    | error e => rfl
    | ok result =>
      obtain ⟨r, next⟩ := result
      obtain ⟨-, rfl⟩ := register_eq_ok_iff.1 called
      rfl

theorem accepted_append (registry : Registry) (before rest : List Request) :
    registry.accepted (before ++ rest) =
      registry.accepted before ++ (registry.afterAll before).accepted rest := by
  induction before generalizing registry with
  | nil => rfl
  | cons q before ih =>
    rw [List.cons_append, accepted, accepted, afterAll_cons, after]
    cases called : registry.register q.name q.slot q.offer with
    | error e => exact ih registry
    | ok result => exact congrArg (result.1 :: ·) (ih result.2)

theorem afterAll_of_accepted {registry next : Registry} {before : List Request} {q : Request}
    {r : Registration}
    (added : (registry.afterAll before).register q.name q.slot q.offer = .ok (r, next)) :
    registry.afterAll (before ++ [q]) = next ∧
      registry.accepted (before ++ [q]) = registry.accepted before ++ [r] ∧
      Admits registry.defaultPriority q.name q.slot q.offer r := by
  have admits := (register_eq_ok_iff.1 added).1
  rw [defaultPriority_afterAll] at admits
  refine ⟨?_, ?_, admits⟩
  · rw [afterAll_append, afterAll_cons, after, added]
    rfl
  · rw [accepted_append, accepted, added]
    rfl

/-- After any run of calls, the names that were accepted stand in the order of their first
acceptance, each with its last registration; a call that fails has no influence at all; and handlers
run by priority, those of equal priority in the order of the registry. -/
theorem registrations_of_requests (defaultPriority : Int) (requests : List Request) :
    let start : Registry := { defaultPriority }
    let registry := start.afterAll requests
    registry.Holds (start.accepted requests) ∧ registry.WellFormed ∧
      registry.registrations.map some = registry.names.map registry.get? ∧
      (∀ before q r next, (start.afterAll before).register q.name q.slot q.offer = .ok (r, next) →
        start.afterAll (before ++ [q]) = next ∧
        start.accepted (before ++ [q]) = start.accepted before ++ [r] ∧
        Admits defaultPriority q.name q.slot q.offer r) ∧
      (∀ before q rest e, (start.afterAll before).register q.name q.slot q.offer = .error e →
        start.afterAll (before ++ [q]) = start.afterAll before ∧
        start.afterAll (before ++ q :: rest) = start.afterAll (before ++ rest)) ∧
      registry.sorted.Perm registry.registrations ∧
      registry.sorted.Pairwise (fun r s => r.priority ≤ s.priority) ∧
      ∀ priority, registry.sorted.filter (·.priority = priority) =
        registry.registrations.filter (·.priority = priority) := by
  intro start registry
  have wellFormed : registry.WellFormed := (wellFormed_empty defaultPriority).afterAll requests
  have found : ∀ r ∈ registry.registrations, some r = registry.get? r.name :=
    fun r hr => (wellFormed.get?_eq hr).symm
  refine ⟨(holds_empty defaultPriority).afterAll requests, wellFormed, ?_,
    fun _ _ _ _ => afterAll_of_accepted, ?_, List.mergeSort_perm _ _, registry.sorted_pairwise,
    registry.filter_sorted⟩
  · rw [names, List.map_map]
    exact List.map_congr_left found
  · intro before q rest e refused
    refine ⟨?_, afterAll_of_refused refused rest⟩
    simpa using afterAll_of_refused refused []

example (h : Handler) : (Registry.afterAll {} [⟨.text "tab", .handler h, .other .null⟩,
    ⟨.text "end", .options {}, .handler h⟩, ⟨.text "note", .handler h, .handler h⟩,
    ⟨.text "card", .options {}, .handler h⟩, ⟨.text "tab", .options {}, .handler h⟩]).names =
      ["tab", "card"] := rfl

end PageDirectives.Registry
