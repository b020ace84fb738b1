import Mathlib.Data.List.Nodup
import PageDirectives.Directive.Registry
import PageDirectives.Proofs.Directive.LineScan
/-!
Registries as registering builds them: every name has the form of a name and is not reserved, and no
name is registered twice. Registering keeps this whatever is offered, and so every registry that is
built from an empty one has it.
-/
namespace PageDirectives.Registry

/-- The names are names that can be registered, each of them once. -/
structure WellFormed (registry : Registry) : Prop where
  isName : ∀ r ∈ registry.registrations, Text.isName r.name = true
  notReserved : ∀ r ∈ registry.registrations, Directive.isReserved r.name = false
  distinct : (registry.registrations.map (·.name)).Nodup

theorem wellFormed_empty (defaultPriority : Int) :
    WellFormed { registrations := [], defaultPriority } :=
  ⟨by simp, by simp, by simp⟩

theorem mem_put {r s : Registration} {registrations : List Registration}
    (h : s ∈ put r registrations) : s = r ∨ s ∈ registrations := by
  induction registrations with
  | nil => exact .inl (List.mem_singleton.1 h)
  | cons first rest ih =>
    rw [put] at h
    split at h
    · exact (List.mem_cons.1 h).imp_right (List.mem_cons_of_mem first)
    · rcases List.mem_cons.1 h with rfl | h
      · exact .inr List.mem_cons_self
      · exact (ih h).imp_right (List.mem_cons_of_mem first)

/-- A registration takes the place of the one with its name, or comes behind all. -/
theorem map_name_put (r : Registration) (registrations : List Registration) :
    (put r registrations).map (·.name) =
      if r.name ∈ registrations.map (·.name) then registrations.map (·.name)
      else registrations.map (·.name) ++ [r.name] := by
  induction registrations with
  | nil => rfl
  | cons first rest ih =>
    by_cases h : first.name = r.name
    · simp [put, h]
    · simp only [put, h, if_false, List.map_cons, ih, List.mem_cons, Ne.symm h, false_or]
      split <;> rfl

theorem mem_put_self (r : Registration) (registrations : List Registration) :
    r ∈ put r registrations := by
  induction registrations with
  | nil => exact List.mem_singleton_self r
  | cons first rest ih =>
    rw [put]
    split
    · exact List.mem_cons_self
    · exact List.mem_cons_of_mem first ih

theorem mem_put_of_ne {r s : Registration} {registrations : List Registration}
    (ne : s.name ≠ r.name) (hs : s ∈ registrations) : s ∈ put r registrations := by
  induction registrations with
  | nil => exact absurd hs List.not_mem_nil
  | cons first rest ih =>
    rw [put]
    split
    · next same =>
      exact List.mem_cons_of_mem r ((List.mem_cons.1 hs).resolve_left fun h => ne (h ▸ same))
    · rcases List.mem_cons.1 hs with rfl | hs
      · exact List.mem_cons_self
      · exact List.mem_cons_of_mem first (ih hs)

theorem exists_of_bind_eq_ok {ε α β : Type} {x : Except ε α} {f : α → Except ε β} {b : β}
    (h : x >>= f = .ok b) : ∃ a, x = .ok a ∧ f a = .ok b := by
  cases x with
  | error e => simp [bind, Except.bind] at h
  | ok a => exact ⟨a, rfl, h⟩

theorem eq_ok_of_mapError {ε δ α : Type} {x : Except ε α} {f : ε → δ} {a : α}
    (h : x.mapError f = .ok a) : x = .ok a := by
  cases x with
  | error e => exact nomatch h
  | ok b => exact congrArg Except.ok (Except.ok.inj h)

/-- What a registration is made of: a name that is valid and not reserved, a handler, and what the
options choose. -/
theorem accept_eq_ok {defaultPriority : Int} {name : Value} {options : Options} {offer : Offer}
    {r : Registration} (h : accept defaultPriority name options offer = .ok r) :
    name = .text r.name ∧ (Text.isName r.name = true ∧ Directive.isReserved r.name = false) ∧
      offer = .handler r.handler ∧
      ∃ entries, Options.entries options.given = .ok entries ∧
        options.chosenForms entries r.name = .ok r.forms ∧
        Options.chosenPriority entries r.name defaultPriority = .ok r.priority := by
  cases name with
  | text given =>
    rw [accept] at h
    cases valid : Text.isName given with
    | false => simp [valid, bind, Except.bind] at h
    | true =>
      cases reserved : Directive.isReserved given with
      | true => simp [valid, reserved, bind, Except.bind] at h
      | false =>
        cases offer with
        | other v => simp [valid, reserved, bind, Except.bind] at h
        | handler chosen =>
          simp only [valid, if_true] at h
          obtain ⟨text, same, h⟩ := exists_of_bind_eq_ok h
          obtain rfl := Except.ok.inj same
          simp only [reserved, Bool.false_eq_true, if_false] at h
          obtain ⟨handler, offered, h⟩ := exists_of_bind_eq_ok h
          obtain rfl := Except.ok.inj offered
          obtain ⟨entries, read, h⟩ := exists_of_bind_eq_ok h
          obtain ⟨forms, formed, h⟩ := exists_of_bind_eq_ok h
          obtain ⟨priority, ranked, h⟩ := exists_of_bind_eq_ok h
          obtain rfl := Except.ok.inj h
          exact ⟨rfl, ⟨valid, reserved⟩, rfl, entries, eq_ok_of_mapError read, formed, ranked⟩
  | _ =>
    obtain ⟨literal, -, refused⟩ := exists_of_bind_eq_ok h
    simp [bind, Except.bind] at refused

theorem WellFormed.put {registry : Registry} (h : registry.WellFormed) {r : Registration}
    (valid : Text.isName r.name = true) (free : Directive.isReserved r.name = false) :
    WellFormed { registry with registrations := put r registry.registrations } := by
  refine ⟨fun s hs => ?_, fun s hs => ?_, ?_⟩
  · rcases mem_put hs with rfl | hs
    · exact valid
    · exact h.isName s hs
  · rcases mem_put hs with rfl | hs
    · exact free
    · exact h.notReserved s hs
  · rw [map_name_put]
    split
    · exact h.distinct
    · next new =>
      refine List.nodup_append.2 ⟨h.distinct, by simp, ?_⟩
      rintro a ha b hb rfl
      exact new (List.mem_singleton.1 hb ▸ ha)

theorem WellFormed.eq_of_name {registry : Registry} (h : registry.WellFormed)
    {r s : Registration} (hr : r ∈ registry.registrations) (hs : s ∈ registry.registrations)
    (same : r.name = s.name) : r = s :=
  List.inj_on_of_nodup_map h.distinct hr hs same

theorem WellFormed.get?_eq {registry : Registry} (h : registry.WellFormed) {r : Registration}
    (hr : r ∈ registry.registrations) : registry.get? r.name = some r := by
  cases found : registry.get? r.name with
  | none => simpa using List.find?_eq_none.1 found r hr
  | some s =>
    have same : s.name = r.name := by simpa using List.find?_some found
    rw [h.eq_of_name (List.mem_of_find?_eq_some found) hr same]

theorem name_ne_of_mem {r s : Registration} {order : List Registration}
    (distinct : ((r :: order).map (·.name)).Nodup) (hs : s ∈ order) : s.name ≠ r.name := by
  intro same
  rw [List.map_cons, List.nodup_cons] at distinct
  exact distinct.1 (List.mem_map.2 ⟨s, hs, same⟩)

theorem sorted_of_pairwise {registry : Registry}
    (h : registry.registrations.Pairwise fun r s => r.priority ≤ s.priority) :
    registry.sorted = registry.registrations :=
  List.mergeSort_of_pairwise (h.imp decide_eq_true)

theorem priority_le_trans (r s t : Registration) (hrs : decide (r.priority ≤ s.priority) = true)
    (hst : decide (s.priority ≤ t.priority) = true) : decide (r.priority ≤ t.priority) = true :=
  decide_eq_true (Int.le_trans (of_decide_eq_true hrs) (of_decide_eq_true hst))

theorem priority_le_total (r s : Registration) :
    (decide (r.priority ≤ s.priority) || decide (s.priority ≤ r.priority)) = true := by
  simpa only [Bool.or_eq_true, decide_eq_true_eq] using Int.le_total r.priority s.priority

theorem sorted_pairwise (registry : Registry) :
    registry.sorted.Pairwise fun r s => r.priority ≤ s.priority :=
  (List.pairwise_mergeSort priority_le_trans priority_le_total registry.registrations).imp
    of_decide_eq_true

theorem filter_sorted (registry : Registry) (priority : Int) :
    registry.sorted.filter (·.priority = priority) =
      registry.registrations.filter (·.priority = priority) := by
  have level : (registry.registrations.filter (·.priority = priority)).Pairwise fun r s =>
      decide (r.priority ≤ s.priority) = true := by
    refine List.pairwise_of_forall_mem_list fun r hr s hs => decide_eq_true ?_
    have hr := of_decide_eq_true (List.mem_filter.1 hr).2
    have hs := of_decide_eq_true (List.mem_filter.1 hs).2
    exact Int.le_of_eq (hr.trans hs.symm)
  have kept := (List.sublist_mergeSort priority_le_trans priority_le_total level
    List.filter_sublist).filter (·.priority = priority)
  rw [List.filter_filter] at kept
  simp only [Bool.and_self] at kept
  exact (kept.eq_of_length ((List.mergeSort_perm _ _).filter _).length_eq.symm).symm

theorem filter_append_filter {level : Int} {order : List Registration}
    (sorted : order.Pairwise fun r s => r.priority ≤ s.priority)
    (least : ∀ r ∈ order, level ≤ r.priority) :
    order.filter (·.priority = level) ++ order.filter (·.priority ≠ level) = order := by
  induction order with
  | nil => rfl
  | cons r rest ih =>
    rw [List.pairwise_cons] at sorted
    rw [List.forall_mem_cons] at least
    by_cases first : r.priority = level
    · simp only [List.filter_cons, first, decide_true, decide_false, if_true, ne_eq,
        not_true_eq_false, List.cons_append]
      rw [if_neg (by simp), ih sorted.2 least.2]
    · have above : ∀ s ∈ r :: rest, s.priority ≠ level := by
        refine List.forall_mem_cons.2 ⟨first, fun s hs => ?_⟩
        have := sorted.1 s hs
        omega
      rw [List.filter_eq_nil_iff.2 fun s hs => by simpa using above s hs,
        List.filter_eq_self.2 fun s hs => by simpa using above s hs, List.nil_append]

/-- A list in ascending order consists of its levels, one after another. -/
theorem eq_flatMap_levels {levels : List Int} (ascending : levels.Pairwise (· < ·))
    {order : List Registration} (sorted : order.Pairwise fun r s => r.priority ≤ s.priority)
    (among : ∀ r ∈ order, r.priority ∈ levels) :
    order = levels.flatMap fun level => order.filter (·.priority = level) := by
  induction levels generalizing order with
  | nil => exact List.eq_nil_iff_forall_not_mem.2 fun r hr => List.not_mem_nil (among r hr)
  | cons level levels ih =>
    rw [List.pairwise_cons] at ascending
    have least : ∀ r ∈ order, level ≤ r.priority := by
      intro r hr
      rcases List.mem_cons.1 (among r hr) with same | later
      · exact Int.le_of_eq same.symm
      · exact Int.le_of_lt (ascending.1 _ later)
    have others : ∀ r ∈ order.filter (·.priority ≠ level), r.priority ∈ levels := by
      intro r hr
      obtain ⟨mem, ne⟩ := List.mem_filter.1 hr
      exact (List.mem_cons.1 (among r mem)).resolve_left (of_decide_eq_true ne)
    have rest := ih ascending.2 (sorted.filter _) others
    have same : (levels.flatMap fun p =>
        (order.filter (·.priority ≠ level)).filter (·.priority = p)) =
        levels.flatMap fun p => order.filter (·.priority = p) := by
      refine List.flatMap_congr fun p hp => ?_
      rw [List.filter_filter]
      refine List.filter_congr fun r _ => ?_
      have above := ascending.1 p hp
      by_cases h : r.priority = p <;> simp [h]
      omega
    rw [List.flatMap_cons, ← same, ← rest, filter_append_filter sorted least]

/-- The registrations run level by level, and on each level in the order in which they came. -/
theorem sorted_eq_flatMap {registry : Registry} {levels : List Int}
    (ascending : levels.Pairwise (· < ·))
    (among : ∀ r ∈ registry.registrations, r.priority ∈ levels) :
    registry.sorted =
      levels.flatMap fun level => registry.registrations.filter (·.priority = level) := by
  have levelled := eq_flatMap_levels ascending registry.sorted_pairwise fun r hr =>
    among r ((List.mergeSort_perm _ _).mem_iff.1 hr)
  simp only [filter_sorted] at levelled
  exact levelled

theorem mem_sorted {registry : Registry} {r : Registration} :
    r ∈ registry.sorted ↔ r ∈ registry.registrations :=
  (List.mergeSort_perm _ _).mem_iff

/-- Of two registrations the one with the lower priority runs first. -/
theorem pair_sublist_sorted {registry : Registry} {r s : Registration}
    (hr : r ∈ registry.registrations) (hs : s ∈ registry.registrations)
    (lower : r.priority < s.priority) : [r, s].Sublist registry.sorted := by
  obtain ⟨front, back, cut⟩ := List.append_of_mem (mem_sorted.2 hs)
  have sorted := registry.sorted_pairwise
  have mem := mem_sorted.2 hr
  rw [cut] at sorted mem ⊢
  have first : r ∈ front := by
    rcases List.mem_append.1 mem with hf | hb
    · exact hf
    · have above : s.priority ≤ r.priority := by
        rcases List.mem_cons.1 hb with rfl | hb
        · exact Int.le_refl _
        · exact (List.pairwise_cons.1 (List.pairwise_append.1 sorted).2.1).1 r hb
      omega
  exact (List.singleton_sublist.2 first).append (List.singleton_sublist.2 List.mem_cons_self)

/-- Of two registrations with the same priority the one that was added first runs first. -/
theorem pair_sublist_sorted_of_le {registry : Registry} {r s : Registration}
    (added : [r, s].Sublist registry.registrations) (le : r.priority ≤ s.priority) :
    [r, s].Sublist registry.sorted :=
  List.pair_sublist_mergeSort priority_le_trans priority_le_total (decide_eq_true le) added

theorem sorted_cons {r : Registration} {rest : List Registration} (defaultPriority : Int)
    (least : ∀ s ∈ rest, r.priority ≤ s.priority) :
    sorted { registrations := r :: rest, defaultPriority } =
      r :: sorted { registrations := rest, defaultPriority } := by
  obtain ⟨front, back, whole, others, lower⟩ :=
    List.mergeSort_cons priority_le_trans priority_le_total r rest
  have none : front = [] := by
    refine List.eq_nil_iff_forall_not_mem.2 fun s hs => ?_
    have mem : s ∈ rest := by
      rw [← (List.mergeSort_perm rest fun r s => r.priority ≤ s.priority).mem_iff, others]
      exact List.mem_append_left back hs
    simpa [least s mem] using lower s hs
  rw [sorted, sorted, whole, others, none]
  rfl

theorem WellFormed.sorted_distinct {registry : Registry} (h : registry.WellFormed) :
    (registry.sorted.map (·.name)).Nodup :=
  ((List.mergeSort_perm _ _).map _).nodup_iff.2 h.distinct

theorem WellFormed.isName_of_mem_sorted {registry : Registry} (h : registry.WellFormed) :
    ∀ r ∈ registry.sorted, Text.isName r.name = true :=
  fun r hr => h.isName r (mem_sorted.1 hr)

theorem WellFormed.newline_notMem {registry : Registry} (h : registry.WellFormed)
    {r : Registration} (hr : r ∈ registry.registrations) : '\n' ∉ r.name :=
  Text.newline_notMem_of_isName (h.isName r hr)

end PageDirectives.Registry
