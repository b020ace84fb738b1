import Mathlib.Data.List.Nodup
import PageDirectives.Site.Glob
/-!
The paths that a pattern selects lie below the directory they are looked for in, and no path is
selected twice, in whatever ways the pattern fits it.
-/
namespace PageDirectives

namespace Path

theorem child_eq_below (p : Path) (name : Text) : p.child name = p.below [name] := rfl

theorem below_below (p : Path) (names others : List Text) :
    (p.below names).below others = p.below (names ++ others) := by
  rw [below, below, below, List.append_assoc]

theorem below_inj {p : Path} {names others : List Text} (same : p.below names = p.below others) :
    names = others := by
  have lists : p.names ++ names = p.names ++ others := congrArg Path.names same
  exact List.append_cancel_left lists

theorem drop_below (p : Path) (names : List Text) :
    (p.below names).names.drop p.names.length = names := by
  rw [below, List.drop_left]

end Path

theorem nodup_eraseDups {α : Type} [BEq α] [LawfulBEq α] (l : List α) : l.eraseDups.Nodup := by
  match l with
  | [] => exact List.nodup_nil
  | a :: l =>
    rw [List.eraseDups_cons, List.nodup_cons, List.mem_eraseDups]
    exact ⟨by simp, nodup_eraseDups _⟩
termination_by l.length
decreasing_by exact Nat.lt_succ_of_le (List.length_filter_le _ l)

theorem Files.nodup_listing (files : Files) (path : Path) : (files.listing path).Nodup := by
  rw [Files.listing]
  split
  · exact List.nodup_nil
  · exact nodup_eraseDups _

namespace Glob

variable {files : Files} {directoriesOnly : Bool}

theorem selectFrom_literal (name : Text) (rest : List Segment) (path : Path) :
    selectFrom files directoriesOnly (.literal name :: rest) path =
        selectFrom files directoriesOnly rest (path.child name) ∨
      selectFrom files directoriesOnly (.literal name :: rest) path = [] := by
  rw [selectFrom]
  exact ite_eq_or_eq _ _ _

theorem exists_below_of_mem {segments : List Segment} {path selected : Path}
    (h : selected ∈ selectFrom files directoriesOnly segments path) :
    ∃ names, selected = path.below names := by
  induction segments generalizing path with
  | nil =>
    obtain rfl := List.mem_singleton.1 h
    exact ⟨[], by rw [Path.below, List.append_nil]⟩
  | cons segment rest ih =>
    have further {names : List Text}
        (h : selected ∈ selectFrom files directoriesOnly rest (path.below names)) :
        ∃ names, selected = path.below names := by
      obtain ⟨more, rfl⟩ := ih h
      exact ⟨_, path.below_below names more⟩
    cases segment with
    | literal name =>
      rcases selectFrom_literal name rest path with same | same
      · exact further (same ▸ h)
      · exact absurd (same ▸ h) List.not_mem_nil
    | wild parts =>
      rw [selectFrom] at h
      obtain ⟨name, -, h⟩ := List.mem_flatMap.1 h
      exact further h
    | deep =>
      rw [selectFrom, List.mem_eraseDups] at h
      obtain ⟨way, -, h⟩ := List.mem_flatMap.1 h
      exact further h

theorem nodup_selectFrom (segments : List Segment) (path : Path) :
    (selectFrom files directoriesOnly segments path).Nodup := by
  induction segments generalizing path with
  | nil => exact List.nodup_singleton path
  | cons segment rest ih =>
    cases segment with
    | literal name =>
      rcases selectFrom_literal name rest path with same | same
      · exact same ▸ ih _
      · exact same ▸ List.nodup_nil
    | wild parts =>
      rw [selectFrom, List.nodup_iff_pairwise_ne, List.pairwise_flatMap]
      refine ⟨fun name _ => List.nodup_iff_pairwise_ne.1 (ih _), ?_⟩
      -- paths that go on by different names differ in that name
      refine (List.nodup_iff_pairwise_ne.1 ((files.nodup_listing path).filter _)).imp ?_
      intro name other ne first hf second hs same
      refine ne ?_
      obtain ⟨more, rfl⟩ := exists_below_of_mem hf
      obtain ⟨others, rfl⟩ := exists_below_of_mem hs
      rw [Path.child_eq_below, Path.child_eq_below, Path.below_below, Path.below_below] at same
      exact (List.cons.inj (Path.below_inj same)).1
    | deep =>
      -- ways down overlap, and what is met again is dropped
      rw [selectFrom]
      exact nodup_eraseDups _

/-- A file is found once, at a path that goes on from the directory. -/
theorem nodup_filesIn (glob : Glob) (files : Files) (directory : Path) :
    (glob.filesIn files directory).Nodup := by
  have sorted := List.mergeSort_perm ((glob.select files directory).filter files.isFile) Path.le
  exact sorted.nodup_iff.2 ((nodup_selectFrom _ _).filter _)

theorem of_mem_filesIn {glob : Glob} {directory path : Path}
    (h : path ∈ glob.filesIn files directory) :
    files.isFile path = true ∧ ∃ names, path = directory.below names := by
  rw [filesIn, List.mem_mergeSort, List.mem_filter] at h
  exact ⟨h.2, exists_below_of_mem h.1⟩

end Glob
end PageDirectives
