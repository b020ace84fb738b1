import PageDirectives.Site.Files
/-!
What operations on a tree of files leave alone. Where a path leads is a relation with a case for
each kind of name. Creating a directory changes no file, writing changes the file that the path
leads to, and neither makes a path lead elsewhere. A path that goes on without ways up and without
links leads to what lies that way below.
-/
namespace PageDirectives.Files

variable {files later : Files} {place goal : Place} {links : Nat} {name : Text}
  {names others : List Text}

theorem prefix_dropLast {other : Place} (above : place <+: other) (apart : place ≠ other) :
    place <+: other.dropLast := by
  rcases List.eq_nil_or_concat other with rfl | ⟨front, name, rfl⟩
  · exact absurd (List.prefix_nil.1 above) apart
  · rw [List.concat_eq_append] at above apart ⊢
    rw [List.dropLast_concat]
    exact (List.prefix_concat_iff.1 above).resolve_left apart

theorem isAbove_iff :
    files.isAbove place = true ↔ ∃ other ∈ files.places, place <+: other ∧ place ≠ other := by
  simp [isAbove]

/-- What stands somewhere is the present directory, has something below it, or is an entry. -/
theorem nodeAt?_isSome_iff :
    (files.nodeAt? place).isSome = true ↔ ∃ other ∈ files.places, place <+: other := by
  rw [nodeAt?]
  constructor
  · intro there
    split at there
    · next cause =>
      rcases cause with rfl | above
      · exact ⟨_, List.mem_cons_self, List.prefix_rfl⟩
      · obtain ⟨other, mem, below, -⟩ := isAbove_iff.1 above
        exact ⟨other, mem, below⟩
    · obtain ⟨e, mem, same⟩ := List.lookup_isSome_iff.1 there
      obtain rfl := beq_iff_eq.1 same
      exact ⟨e.1, List.mem_cons_of_mem _ (List.mem_map_of_mem mem), List.prefix_rfl⟩
  · rintro ⟨other, mem, below⟩
    split
    · rfl
    · next cause =>
      rw [not_or] at cause
      by_cases same : place = other
      · subst same
        have entered := (List.mem_cons.1 mem).resolve_left cause.1
        obtain ⟨e, held, same⟩ := List.mem_map.1 entered
        exact List.lookup_isSome_iff.2 ⟨e, held, beq_iff_eq.2 same.symm⟩
      · exact absurd (isAbove_iff.2 ⟨other, mem, below, same⟩) cause.2

theorem hasDirectory_iff :
    files.hasDirectory place = true ↔ files.nodeAt? place = some .directory := by
  rw [hasDirectory]
  cases files.nodeAt? place with
  | none => simp
  | some node => cases node <;> simp [Node.isDirectory]

theorem contentAt?_eq_some_iff {content : Content} :
    files.contentAt? place = some content ↔ files.nodeAt? place = some (.file content) := by
  rw [contentAt?]
  cases files.nodeAt? place with
  | none => simp
  | some node => cases node <;> simp [Node.content?]

theorem linkAt?_of_hasDirectory (there : files.hasDirectory place = true) :
    files.linkAt? place = none := by
  rw [linkAt?, hasDirectory_iff.1 there]
  rfl

theorem hasDirectory_present (files : Files) : files.hasDirectory files.present = true := by
  rw [hasDirectory_iff, nodeAt?, if_pos (.inl rfl)]

theorem hasDirectory_of_isAbove (above : files.isAbove place = true) :
    files.hasDirectory place = true := by
  rw [hasDirectory_iff, nodeAt?, if_pos (.inr above)]

/-- What a directory stands in is a directory. -/
theorem hasDirectory_of_prefix {below : Place} (there : files.hasDirectory below = true)
    (above : place <+: below) : files.hasDirectory place = true := by
  by_cases same : place = below
  · exact same ▸ there
  · have held : (files.nodeAt? below).isSome = true := by rw [hasDirectory_iff.1 there]; rfl
    obtain ⟨other, mem, further⟩ := nodeAt?_isSome_iff.1 held
    refine hasDirectory_of_isAbove (isAbove_iff.2 ⟨other, mem, above.trans further, ?_⟩)
    rintro rfl
    exact same (above.eq_of_length_le further.length_le)

theorem hasDirectory_root (files : Files) : files.hasDirectory [] = true :=
  hasDirectory_of_prefix files.hasDirectory_present List.nil_prefix

theorem hasDirectory_dropLast (there : files.hasDirectory place = true) :
    files.hasDirectory place.dropLast = true :=
  hasDirectory_of_prefix there (List.dropLast_prefix place)

theorem isAbove_put (node : Node) (other : Place) :
    (files.put place node).isAbove other = true ↔
      files.isAbove other = true ∨ other <+: place ∧ other ≠ place := by
  simp only [isAbove_iff, places, put, List.map_cons, List.mem_cons]
  constructor
  · rintro ⟨at', rfl | rfl | mem, below⟩
    · exact .inl ⟨_, .inl rfl, below⟩
    · exact .inr below
    · exact .inl ⟨_, .inr mem, below⟩
  · rintro (⟨at', rfl | mem, below⟩ | below)
    · exact ⟨_, .inl rfl, below⟩
    · exact ⟨_, .inr (.inr mem), below⟩
    · exact ⟨_, .inr (.inl rfl), below⟩

/-- What is put into a directory changes nothing elsewhere. -/
theorem nodeAt?_put (parent : files.hasDirectory place.dropLast = true)
    (free : files.hasDirectory place = false) (node : Node) (other : Place) :
    (files.put place node).nodeAt? other =
      if other = place then some node else files.nodeAt? other := by
  have outside : ¬ (place = files.present ∨ files.isAbove place = true) := by
    rintro (rfl | above)
    · exact nomatch free.symm.trans files.hasDirectory_present
    · exact nomatch free.symm.trans (hasDirectory_of_isAbove above)
  simp only [nodeAt?, isAbove_put]
  by_cases same : other = place
  · subst same
    simp only [ne_eq, not_true_eq_false, and_false, or_false, if_true]
    rw [if_neg (by exact outside), put, List.lookup_cons_self]
  · by_cases above : other <+: place
    · -- a place above the new one is the directory that it is put into, or above that
      have there := hasDirectory_of_prefix parent (prefix_dropLast above same)
      rw [if_pos (.inr (.inr ⟨above, same⟩)), if_neg same, ← nodeAt?, hasDirectory_iff.1 there]
    · simp only [above, false_and, or_false, if_neg same]
      rw [put, List.lookup_cons, beq_false_of_ne same]

/-- A tree with all directories of another and the same links. -/
structure Keeps (files later : Files) : Prop where
  present : later.present = files.present
  directories : ∀ place, files.hasDirectory place = true → later.hasDirectory place = true
  links : ∀ place, later.linkAt? place = files.linkAt? place

namespace Keeps

theorem refl (files : Files) : Keeps files files := ⟨rfl, fun _ there => there, fun _ => rfl⟩

theorem trans {last : Files} (h : Keeps files later) (h' : Keeps later last) : Keeps files last :=
  ⟨h'.present.trans h.present, fun place there => h'.directories place (h.directories place there),
    fun place => (h'.links place).trans (h.links place)⟩

theorem put (parent : files.hasDirectory place.dropLast = true)
    (free : files.hasDirectory place = false) (unlinked : files.linkAt? place = none) {node : Node}
    (other : node.target? = none) : Keeps files (files.put place node) where
  present := rfl
  directories at' there := by
    rw [hasDirectory, nodeAt?_put parent free, if_neg, ← hasDirectory]
    · exact there
    · rintro rfl
      exact nomatch free.symm.trans there
  links at' := by
    rw [linkAt?, nodeAt?_put parent free]
    split
    · next same => rw [same, unlinked, Option.bind_some, other]
    · rfl

end Keeps

/-- A tree that keeps another and has the same files. -/
structure Enlarges (files larger : Files) : Prop extends Keeps files larger where
  contents : ∀ place, larger.contentAt? place = files.contentAt? place

theorem Enlarges.refl (files : Files) : Enlarges files files := ⟨.refl files, fun _ => rfl⟩

theorem Enlarges.trans {largest : Files} (h : Enlarges files later)
    (h' : Enlarges later largest) : Enlarges files largest :=
  ⟨h.toKeeps.trans h'.toKeeps, fun place => (h'.contents place).trans (h.contents place)⟩

/-- A directory that is new where nothing stood changes no file. -/
theorem Enlarges.put (parent : files.hasDirectory place = true)
    (free : files.nodeAt? (place ++ [name]) = none) :
    Enlarges files (files.put (place ++ [name]) .directory) := by
  have inside : files.hasDirectory (place ++ [name]).dropLast = true := by
    rwa [List.dropLast_concat]
  have empty : files.hasDirectory (place ++ [name]) = false := by rw [hasDirectory, free]; rfl
  refine ⟨.put inside empty (by rw [linkAt?, free]; rfl) rfl, fun other => ?_⟩
  rw [contentAt?, nodeAt?_put inside empty]
  split
  · next same =>
    rw [same, contentAt?, free]
    rfl
  · rfl

/-- Names lead from a place to another, through no more than a number of links. -/
inductive Leads (files : Files) : (links : Nat) → Place → List Text → Place → Prop
  | here {links : Nat} {place : Place} : Leads files links place [] place
  | up {links : Nat} {place goal : Place} {names : List Text} :
      files.hasDirectory place = true → Leads files links place.dropLast names goal →
        Leads files links place (['.', '.'] :: names) goal
  | along {links : Nat} {place goal : Place} {name : Text} {names : List Text} {target : Path} :
      files.hasDirectory place = true → name ≠ ['.', '.'] →
        files.linkAt? (place ++ [name]) = some target →
        Leads files links (if target.absolute then [] else place) (target.names ++ names) goal →
          Leads files (links + 1) place (name :: names) goal
  | down {links : Nat} {place goal : Place} {name : Text} {names : List Text} :
      files.hasDirectory place = true → name ≠ ['.', '.'] →
        files.linkAt? (place ++ [name]) = none → Leads files links (place ++ [name]) names goal →
          Leads files links place (name :: names) goal

theorem enter_eq_ok_iff : files.enter place = .ok goal ↔ files.hasDirectory place = true ∧
    place = goal := by
  rw [enter]
  split <;> simp_all

theorem follow_nil (files : Files) (links : Nat) (place : Place) :
    files.follow links place [] = .ok place := by
  cases links <;> rfl

theorem follow_cons (there : files.hasDirectory place = true) :
    files.follow links place (name :: names) =
      if name = ['.', '.'] then files.follow links place.dropLast names
      else
        match files.linkAt? (place ++ [name]), links with
        | some _, 0 => .error .tooManyLinks
        | some target, links + 1 =>
          files.follow links (if target.absolute then [] else place) (target.names ++ names)
        | none, _ => files.follow links (place ++ [name]) names := by
  have entered := enter_eq_ok_iff.2 ⟨there, rfl⟩
  cases links <;>
  · rw [follow, followBy, entered]
    dsimp only
    cases files.linkAt? (place ++ [name]) <;> rfl

theorem hasDirectory_of_follow_cons (found : files.follow links place (name :: names) = .ok goal) :
    files.hasDirectory place = true := by
  cases links <;>
  · rw [follow, followBy] at found
    split at found
    · exact nomatch found
    · next entered => exact (enter_eq_ok_iff.1 entered).1

theorem follow_eq_ok_iff :
    files.follow links place names = .ok goal ↔ Leads files links place names goal := by
  constructor
  · -- behind a link the names may be more, but the links left are fewer
    induction links using Nat.strongRecOn generalizing place names with
    | ind links fewer =>
      intro found
      induction names generalizing place with
      | nil =>
        rw [follow_nil] at found
        exact Except.ok.inj found ▸ .here
      | cons name names ih =>
        have there := hasDirectory_of_follow_cons found
        rw [follow_cons there] at found
        split at found
        · next back => exact back ▸ .up there (ih found)
        · next ahead =>
          split at found
          · exact nomatch found
          · next target links link =>
            exact .along there ahead link (fewer links links.lt_succ_self found)
          · next link => exact .down there ahead link (ih found)
  · intro h
    induction h with
    | here => exact follow_nil ..
    | up there _ ih => rwa [follow_cons there, if_pos rfl]
    | along there ahead link _ ih => rwa [follow_cons there, if_neg ahead, link]
    | down there ahead link _ ih => rwa [follow_cons there, if_neg ahead, link]

namespace Leads

/-- Directories and links are all that decides where names lead. -/
theorem of_keeps (keeps : Keeps files later) (h : Leads files links place names goal) :
    Leads later links place names goal := by
  induction h with
  | here => exact .here
  | up there _ ih => exact .up (keeps.directories _ there) ih
  | along there ahead link _ ih =>
    exact .along (keeps.directories _ there) ahead ((keeps.links _).trans link) ih
  | down there ahead link _ ih =>
    exact .down (keeps.directories _ there) ahead ((keeps.links _).trans link) ih

/-- Names lead from a directory to a directory, or to what stands in one and is no link. -/
theorem inDirectory (h : Leads files links place names goal)
    (inside : files.hasDirectory place.dropLast = true ∧ files.linkAt? place = none) :
    files.hasDirectory goal.dropLast = true ∧ files.linkAt? goal = none := by
  have directory {place : Place} (there : files.hasDirectory place = true) :
      files.hasDirectory place.dropLast = true ∧ files.linkAt? place = none :=
    ⟨hasDirectory_dropLast there, linkAt?_of_hasDirectory there⟩
  induction h with
  | here => exact inside
  | up there _ ih => exact ih (directory (hasDirectory_dropLast there))
  | along there _ _ _ ih =>
    refine ih ?_
    split
    · exact directory files.hasDirectory_root
    · exact directory there
  | down there _ link _ ih => exact ih ⟨by rwa [List.dropLast_concat], link⟩

/-- Names lead on from where the first of them lead to. -/
theorem exists_of_append (h : Leads files links place (names ++ others) goal) :
    ∃ mid left, Leads files links place names mid ∧ Leads files left mid others goal := by
  generalize whole : names ++ others = all at h
  induction h generalizing names with
  | here =>
    obtain ⟨rfl, rfl⟩ := List.append_eq_nil_iff.1 whole
    exact ⟨_, 0, .here, .here⟩
  | up there on ih =>
    cases names with
    | nil =>
      obtain rfl : others = _ := whole
      exact ⟨_, _, .here, .up there on⟩
    | cons name names =>
      obtain ⟨rfl, rfl⟩ := List.cons.inj whole
      obtain ⟨mid, left, first, second⟩ := ih rfl
      exact ⟨mid, left, .up there first, second⟩
  | along there ahead link on ih =>
    cases names with
    | nil =>
      obtain rfl : others = _ := whole
      exact ⟨_, _, .here, .along there ahead link on⟩
    | cons name names =>
      obtain ⟨rfl, rfl⟩ := List.cons.inj whole
      obtain ⟨mid, left, first, second⟩ := ih (List.append_assoc ..)
      exact ⟨mid, left, .along there ahead link first, second⟩
  | down there ahead link on ih =>
    cases names with
    | nil =>
      obtain rfl : others = _ := whole
      exact ⟨_, _, .here, .down there ahead link on⟩
    | cons name names =>
      obtain ⟨rfl, rfl⟩ := List.cons.inj whole
      obtain ⟨mid, left, first, second⟩ := ih rfl
      exact ⟨mid, left, .down there ahead link first, second⟩

end Leads

/-- From a place on, names lead neither back up nor through a link. -/
def Straight (files : Files) (place : Place) (names : List Text) : Prop :=
  ['.', '.'] ∉ names ∧ ∀ way, way <+: names → way ≠ [] → files.linkAt? (place ++ way) = none

theorem Straight.tail (h : Straight files place (name :: names)) :
    Straight files (place ++ [name]) names := by
  refine ⟨fun back => h.1 (List.mem_cons_of_mem _ back), fun way front _ => ?_⟩
  rw [List.append_assoc]
  exact h.2 (name :: way) (List.cons_prefix_cons.2 ⟨rfl, front⟩) (List.cons_ne_nil _ _)

theorem Leads.eq_of_straight (h : Leads files links place names goal)
    (straight : Straight files place names) : goal = place ++ names := by
  induction h with
  | here => rw [List.append_nil]
  | up => exact absurd List.mem_cons_self straight.1
  | along _ _ link _ _ =>
    have unlinked := straight.2 _ (List.cons_prefix_cons.2 ⟨rfl, List.nil_prefix⟩)
      (List.cons_ne_nil _ _)
    exact nomatch link.symm.trans unlinked
  | down _ _ _ _ ih => rw [ih straight.tail, List.append_assoc, List.singleton_append]

theorem place?_eq_some_iff {path : Path} : files.place? path = some goal ↔
    Leads files maxLinks (if path.absolute then [] else files.present) path.names goal := by
  rw [place?, locate, ← follow_eq_ok_iff]
  cases files.follow maxLinks (if path.absolute then [] else files.present) path.names with
  | error fault => exact iff_of_false nofun nofun
  | ok found => exact ⟨fun same => congrArg Except.ok (Option.some.inj same),
      fun same => congrArg some (Except.ok.inj same)⟩

theorem Keeps.place? (keeps : Keeps files later) {path : Path}
    (found : files.place? path = some goal) : later.place? path = some goal := by
  rw [place?_eq_some_iff] at found ⊢
  rw [keeps.present]
  exact found.of_keeps keeps

/-- A path leads to a directory, or to what stands in one and is no link. -/
theorem inDirectory_of_place? {path : Path} (found : files.place? path = some goal) :
    files.hasDirectory goal.dropLast = true ∧ files.linkAt? goal = none := by
  refine (place?_eq_some_iff.1 found).inDirectory ?_
  split
  · exact ⟨files.hasDirectory_root, linkAt?_of_hasDirectory files.hasDirectory_root⟩
  · have there := files.hasDirectory_present
    exact ⟨hasDirectory_dropLast there, linkAt?_of_hasDirectory there⟩

/-- A path that goes on from another leads somewhere only if that one does, and if it goes on
straight it leads below. -/
theorem exists_place_of_below {path : Path} (found : files.place? (path.below names) = some goal) :
    ∃ base, files.place? path = some base ∧ (Straight files base names → goal = base ++ names) := by
  obtain ⟨base, left, first, second⟩ := (place?_eq_some_iff.1 found).exists_of_append
  exact ⟨base, place?_eq_some_iff.2 first, second.eq_of_straight⟩

theorem locate_eq_ok_iff {path : Path} :
    files.locate path = .ok goal ↔ files.place? path = some goal := by
  rw [place?]
  cases files.locate path <;> simp [Except.toOption]

/-- A file that is there reads as before. -/
theorem Enlarges.read (h : Enlarges files later) {path : Path} (there : files.isFile path = true) :
    later.read path = files.read path := by
  obtain ⟨content, found⟩ := Option.isSome_iff_exists.1 there
  obtain ⟨place, leads, held⟩ := Option.bind_eq_some_iff.1 found
  have leads' := h.toKeeps.place? leads
  rw [Files.read, Files.read, locate_eq_ok_iff.2 leads, locate_eq_ok_iff.2 leads']
  have held' := (h.contents place).trans held
  simp only [contentAt?_eq_some_iff.1 held, contentAt?_eq_some_iff.1 held']

section Create

variable {path : Path}

theorem enlarges_of_makeDirectory (made : files.makeDirectory path = .ok later) :
    Enlarges files later := by
  rw [makeDirectory] at made
  split at made
  · exact nomatch made
  · exact nomatch made
  · next name above named entered =>
    split at made
    · exact nomatch made
    · next free =>
      obtain rfl := Except.ok.inj made
      rw [not_or, Bool.not_eq_true, Option.isSome_eq_false_iff, Option.isNone_iff_eq_none] at free
      have there : files.hasDirectory above = true := by
        cases located : files.locate path.parent with
        | error fault => exact nomatch located ▸ entered
        | ok place =>
          rw [located] at entered
          obtain ⟨there, rfl⟩ := enter_eq_ok_iff.1 entered
          exact there
      exact .put there free.2

theorem enlarges_of_ensureDirectory (made : files.ensureDirectory path = .ok later) :
    Enlarges files later := by
  rw [ensureDirectory] at made
  split at made
  · exact nomatch made
  · split at made
    · exact Except.ok.inj made ▸ .refl files
    · exact nomatch made
  · next made' =>
    exact enlarges_of_makeDirectory (made'.trans made)

theorem enlarges_finish (files : Files) (absolute : Bool) (names : List Text) :
    Enlarges files (createUpwards.finish absolute files names).2 := by
  rw [createUpwards.finish]
  split
  · next made => exact enlarges_of_ensureDirectory made
  · exact .refl files

theorem enlarges_createUpwards (files : Files) (absolute : Bool) (names : List Text) :
    Enlarges files (files.createUpwards absolute names).2 := by
  induction names with
  | nil => exact enlarges_finish ..
  | cons name above ih =>
    rw [createUpwards]
    split
    · split
      · next created =>
        rw [created] at ih
        exact ih.trans (enlarges_finish ..)
      · exact ih
    · exact enlarges_finish ..

/-- Whether or not a directory can be created, no file changes and no path leads elsewhere. -/
theorem enlarges_createDirectory (files : Files) (path : Path) :
    Enlarges files (files.createDirectory path).2 :=
  enlarges_createUpwards ..

end Create

/-- Writing changes the file that the path leads to, and no path leads elsewhere. -/
theorem contentAt?_of_write {path : Path} {text : Text} {written : Files}
    (h : files.write path text = .ok written) :
    ∃ place, files.place? path = some place ∧ Keeps files written ∧
      ∀ other, written.contentAt? other =
        if other = place then some (.ok text) else files.contentAt? other := by
  rw [write] at h
  split at h
  · exact nomatch h
  · next place found =>
    split at h
    · exact nomatch h
    · next free =>
      obtain rfl := Except.ok.inj h
      rw [Bool.not_eq_true] at free
      have leads := locate_eq_ok_iff.1 found
      obtain ⟨parent, unlinked⟩ := inDirectory_of_place? leads
      refine ⟨place, leads, .put parent free unlinked rfl, fun other => ?_⟩
      rw [contentAt?, nodeAt?_put parent free]
      split <;> rfl

end PageDirectives.Files
