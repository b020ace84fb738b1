import PageDirectives.Layout.Catalogue
import PageDirectives.Proofs.Directive.Registry
/-!
The registry of the catalogue. Its names are distinct and can all be registered, so adding them to
an empty registry gives the catalogue in its own order. Listings come before every other directive
unless the layouts are given a lower priority.
-/
namespace PageDirectives

theorem Registry.put_of_notMem {r : Registration} {registrations : List Registration}
    (new : r.name ∉ registrations.map (·.name)) :
    put r registrations = registrations ++ [r] := by
  induction registrations with
  | nil => rfl
  | cons first rest ih =>
    rw [List.map_cons, List.mem_cons, not_or] at new
    rw [put, if_neg (Ne.symm new.1), ih new.2, List.cons_append]

theorem Registry.foldl_put {front back : List Registration}
    (distinct : ((front ++ back).map (·.name)).Nodup) :
    back.foldl (fun registrations r => put r registrations) front = front ++ back := by
  induction back generalizing front with
  | nil => simp
  | cons r back ih =>
    have new : r.name ∉ front.map (·.name) := by
      rw [List.map_append, List.nodup_append] at distinct
      exact fun known => distinct.2.2 r.name known r.name (by simp) rfl
    rw [List.foldl_cons, put_of_notMem new, ih (by simpa using distinct), List.append_assoc,
      List.singleton_append]

theorem Registry.mem_foldl_put {registrations added : List Registration} {r : Registration}
    (hr : r ∈ registrations) (others : ∀ s ∈ added, r.name ≠ s.name) :
    r ∈ added.foldl (fun registrations s => put s registrations) registrations := by
  induction added generalizing registrations with
  | nil => exact hr
  | cons s added ih =>
    rw [List.forall_mem_cons] at others
    exact ih (mem_put_of_ne others.1 hr) others.2

/-- Whatever is registered already, registrations with names of their own are all added. -/
theorem Registry.mem_foldl_put_of_mem {added : List Registration}
    (distinct : (added.map (·.name)).Nodup) (registrations : List Registration)
    {r : Registration} (hr : r ∈ added) :
    r ∈ added.foldl (fun registrations s => put s registrations) registrations := by
  induction added generalizing registrations with
  | nil => exact absurd hr List.not_mem_nil
  | cons s added ih =>
    rw [List.foldl_cons]
    rcases List.mem_cons.1 hr with rfl | hr
    · exact mem_foldl_put (mem_put_self r registrations) fun t ht => (name_ne_of_mem distinct ht).symm
    · exact ih distinct.of_cons _ hr

theorem Registry.WellFormed.foldl_put {registry : Registry} (wf : registry.WellFormed)
    {added : List Registration}
    (valid : ∀ r ∈ added, Text.isName r.name = true ∧ Directive.isReserved r.name = false) :
    WellFormed { registry with
      registrations := added.foldl (fun registrations s => Registry.put s registrations)
        registry.registrations } := by
  induction added generalizing registry with
  | nil => exact wf
  | cons r added ih =>
    rw [List.forall_mem_cons] at valid
    exact ih (wf.put valid.1.1 valid.1.2) valid.2

namespace Layout

/-- The names of the catalogue. -/
def names : List Text :=
  ["code", "columns", "split", "stack-mobile", "grid", "collection", "cards", "small", "accent",
    "feature", "center", "card", "testimonial", "hero", "image", "gallery", "space", "muted",
    "subtle", "note", "error", "alert", "warning", "success", "callout", "button", "form", "if"]

variable (highlighter : Highlighter) (delimiter : Text) (defaultPriority : Int)

theorem map_name_catalogue :
    (catalogue highlighter delimiter defaultPriority).map (·.name) = names := rfl

theorem priority_of_mem_catalogue {r : Registration}
    (hr : r ∈ catalogue highlighter delimiter defaultPriority) :
    r.priority ∈ [listingPriority, leafPriority, wrapperPriority, defaultPriority] := by
  revert r
  simp [catalogue, containers, lineNotes]

theorem nodup_names : ((catalogue highlighter delimiter defaultPriority).map (·.name)).Nodup := by
  rw [map_name_catalogue]
  decide

theorem register_empty :
    register highlighter delimiter { defaultPriority } =
      { registrations := catalogue highlighter delimiter defaultPriority, defaultPriority } := by
  have added : (catalogue highlighter delimiter defaultPriority).foldl
      (fun registrations r => Registry.put r registrations) [] =
        [] ++ catalogue highlighter delimiter defaultPriority :=
    Registry.foldl_put (nodup_names highlighter delimiter defaultPriority)
  exact congrArg (Registry.mk · defaultPriority) added

theorem valid_catalogue : ∀ r ∈ catalogue highlighter delimiter defaultPriority,
    Text.isName r.name = true ∧ Directive.isReserved r.name = false := by
  have valid : ∀ name ∈ names, Text.isName name = true ∧ Directive.isReserved name = false := by
    decide
  rw [← map_name_catalogue highlighter delimiter defaultPriority] at valid
  exact List.forall_mem_map.1 valid

theorem wellFormed_register_of {registry : Registry} (wf : registry.WellFormed) :
    (register highlighter delimiter registry).WellFormed :=
  wf.foldl_put (valid_catalogue highlighter delimiter registry.defaultPriority)

theorem wellFormed_register : (register highlighter delimiter { defaultPriority }).WellFormed :=
  wellFormed_register_of highlighter delimiter (Registry.wellFormed_empty defaultPriority)

theorem registrations_register (registry : Registry) :
    (register highlighter delimiter registry).registrations =
      (catalogue highlighter delimiter registry.defaultPriority).foldl
        (fun registrations r => Registry.put r registrations) registry.registrations := by
  rw [register]

theorem mem_register {registry : Registry} {r : Registration}
    (hr : r ∈ catalogue highlighter delimiter registry.defaultPriority) :
    r ∈ (register highlighter delimiter registry).registrations := by
  have added := Registry.mem_foldl_put_of_mem
    (nodup_names highlighter delimiter registry.defaultPriority) registry.registrations hr
  rwa [registrations_register]

/-- Where none of its names is registered yet, the catalogue is added behind all. -/
theorem register_new {registry : Registry} (wf : registry.WellFormed)
    (new : ∀ r ∈ registry.registrations, r.name ∉ names) :
    (register highlighter delimiter registry).registrations =
      registry.registrations ++ catalogue highlighter delimiter registry.defaultPriority := by
  rw [registrations_register]
  refine Registry.foldl_put ?_
  rw [List.map_append]
  refine List.nodup_append.2
    ⟨wf.distinct, nodup_names highlighter delimiter registry.defaultPriority, ?_⟩
  rintro a ha b hb rfl
  obtain ⟨r, hr, rfl⟩ := List.mem_map.1 ha
  exact new r hr (map_name_catalogue highlighter delimiter registry.defaultPriority ▸ hb)

/-- The registration of listings. -/
def listings : Registration :=
  ⟨"code", .block, listingPriority, Listing.handler highlighter⟩

variable {defaultPriority} in
theorem sorted_register (low : listingPriority ≤ defaultPriority) :
    ∃ others, (register highlighter delimiter { defaultPriority }).sorted =
      listings highlighter :: others := by
  rw [register_empty]
  refine ⟨_, Registry.sorted_cons defaultPriority fun r hr => ?_⟩
  have among := priority_of_mem_catalogue highlighter delimiter defaultPriority
    (List.mem_cons_of_mem _ hr)
  simp only [List.mem_cons, List.not_mem_nil, or_false] at among
  simp only [listingPriority, leafPriority, wrapperPriority] at among low ⊢
  omega

variable {defaultPriority} in
/-- Where layouts come behind wrappers, the catalogue runs in four levels. -/
theorem sorted_register_levels (above : wrapperPriority < defaultPriority) :
    (register highlighter delimiter { defaultPriority }).sorted =
      [listingPriority, leafPriority, wrapperPriority, defaultPriority].flatMap fun level =>
        (catalogue highlighter delimiter defaultPriority).filter (·.priority = level) := by
  rw [register_empty]
  refine Registry.sorted_eq_flatMap ?_ fun r =>
    priority_of_mem_catalogue highlighter delimiter defaultPriority
  simp only [listingPriority, leafPriority, wrapperPriority] at above ⊢
  simp
  omega

end Layout
end PageDirectives
