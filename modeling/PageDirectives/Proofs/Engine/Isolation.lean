import PageDirectives.Proofs.Engine.Calls
import PageDirectives.Proofs.Engine.Placeholder
/-!
How far the failure of one handler reaches. A block whose handler fails keeps its lines, its closing
line among them, and every later pass reads them again. Beside other items this does no harm: the
rest of the outline is dealt with as if the handler had answered with a line of its own. In the body
of another block it does, since the block around it now ends at the closing line of the failed one.
-/
namespace PageDirectives

open Directive

namespace Outline

/-- A place in an outline: between its items, or in the body of one of its blocks. -/
inductive Place
  | between (front back : Outline)
  | inside (front : Outline) (name tail : Text) (place : Place) (back : Outline)

/-- An outline with a block at a place. -/
def Place.fill (name tail : Text) (body : Outline) : Place → Outline
  | between front back => front.append (block name tail body back)
  | inside front outer args place back =>
    front.append (block outer args (place.fill name tail body) back)

def Place.isEnclosed : Place → Bool
  | between _ _ => false
  | inside .. => true

end Outline

namespace Engine

/-- What the failure of one occurrence should leave of a run: the calls are those of the evaluation,
with the failed block as it is written, and the result is that with a line in the place of the failed
block, but for that line. -/
structure Isolated (engine : Engine) (page : Entries) (d : Outline) (failed : Occurrence) : Prop where
  calls : ((process engine page (Text.ofLines d.written)).trace.calls.map (·.occurrence)).Perm
    (d.occurrences engine.registry.outcome page)
  output : ∃ pieces,
    (process engine page (Text.ofLines d.written)).result = .ok (Text.join failed.raw pieces) ∧
      ∀ line, '\n' ∉ line → isMarked line = false →
        (process (engine.orPlaceholder line) page (Text.ofLines d.written)).result =
          .ok (Text.join line pieces)

section Leaf

variable {page : Entries} {name tail : Text} {body : List Text}

/-- The lines of a block without directives in its body. -/
def leafLines (name tail : Text) (body : List Text) : List Text :=
  openingLine name tail :: (body ++ [closingLine])

theorem pass_leaf_of_ne {other : Text} (valid : Text.isName other = true)
    (free : isReserved other = false) (nameValid : Text.isName name = true) (ne : other ≠ name)
    (ends : nameEnds tail = true) (bare : ∀ line ∈ body, isMarked line = false) (form : Form)
    (image : Occurrence → Text) (later : List Text) :
    (reader other page form).found (leafLines name tail body ++ later) =
        (reader other page form).found later ∧
      (reader other page form).exchange image (leafLines name tail body ++ later) =
        leafLines name tail body ++ (reader other page form).exchange image later := by
  obtain ⟨foundPast, exchangedPast⟩ := pass_openingLine_of_ne image (body ++ closingLine :: later)
    valid nameValid ne ends
  obtain ⟨foundEnd, exchangedEnd⟩ := pass_closingLine image later valid free
  have heeds := reader_heeds other page form
  simp only [leafLines, List.cons_append, List.append_assoc, List.nil_append]
  rw [foundPast, exchangedPast, heeds.found_append bare, heeds.exchange_append image bare, foundEnd,
    exchangedEnd]
  exact ⟨rfl, rfl⟩

theorem pass_leaf (ends : nameEnds tail = true) (bare : ∀ line ∈ body, isMarked line = false)
    (image : Occurrence → Text) (later : List Text) :
    (reader name page .block).found (leafLines name tail body ++ later) =
        blockOccurrence page name tail body :: (reader name page .block).found later ∧
      (reader name page .block).exchange image (leafLines name tail body ++ later) =
        Text.lines (image (blockOccurrence page name tail body)) ++
          (reader name page .block).exchange image later := by
  simp only [leafLines, List.cons_append, List.append_assoc, List.nil_append]
  exact pass_block image later ends fun line hl => closes_of_not_marked (bare line hl)

/-- A block whose handler fails stays as it is in every pass. -/
theorem inert_leaf {registry : Registry} (wf : registry.WellFormed)
    (registered : ∃ r ∈ registry.sorted, r.name = name ∧ r.forms = .block)
    (ends : nameEnds tail = true) (bare : ∀ line ∈ body, isMarked line = false)
    (ls : Text.AreLines (leafLines name tail body))
    (fails : registry.FailsOn (blockOccurrence page name tail body)) :
    Inert page registry.sorted (leafLines name tail body) [blockOccurrence page name tail body] := by
  obtain ⟨r, hr, rfl, forms⟩ := registered
  have nameValid := wf.isName_of_mem_sorted r hr
  have unique : ∀ s ∈ registry.sorted, s.name = r.name → s = r := fun s hs same =>
    wf.eq_of_name (Registry.mem_sorted.1 hs) (Registry.mem_sorted.1 hr) same
  have raw : Text.lines (r.handler.outcome (blockOccurrence page r.name tail body)) =
      leafLines r.name tail body := by
    rw [← wf.outcome_eq (Registry.mem_sorted.1 hr) rfl, wf.outcome_of_failsOn fails]
    exact Text.lines_ofLines ls (by simp)
  have blockOnly : ∀ form, r.forms.has form = true → form = .block := by
    intro form has
    cases form with
    | inline => simp [forms, Forms.has] at has
    | block => rfl
  refine ⟨fun s hs form has later => ?_, fun s hs form has later => ?_, fun s hs o ho same => ?_⟩
  · by_cases h : s.name = r.name
    · obtain rfl := unique s hs h
      obtain rfl := blockOnly form has
      rw [(pass_leaf ends bare s.handler.outcome later).1]
      simp [blockOccurrence]
    · have valid := wf.isName_of_mem_sorted s hs
      have free := wf.notReserved s (Registry.mem_sorted.1 hs)
      rw [(pass_leaf_of_ne valid free nameValid h ends bare form s.handler.outcome later).1]
      simp [blockOccurrence, Ne.symm h]
  · by_cases h : s.name = r.name
    · obtain rfl := unique s hs h
      obtain rfl := blockOnly form has
      rw [(pass_leaf ends bare s.handler.outcome later).2, raw]
    · have valid := wf.isName_of_mem_sorted s hs
      have free := wf.notReserved s (Registry.mem_sorted.1 hs)
      rw [(pass_leaf_of_ne valid free nameValid h ends bare form s.handler.outcome later).2]
  · rw [List.mem_singleton.1 ho] at same
    obtain rfl := unique s hs same.symm
    simp [forms]

end Leaf

section Failure

variable {engine : Engine} {page : Entries} {name tail : Text} {body : Outline}

section Between

variable {front back : Outline}

theorem written_between : ((Outline.Place.between front back).fill name tail body).written =
    around (leafLines name tail body.written) front back := by
  simp [Outline.Place.fill, Outline.written, around, leafLines]

theorem occurrences_between (leaf : body.names = []) (answer : Occurrence → Text) :
    ((Outline.Place.between front back).fill name tail body).occurrences answer page =
      aroundOccurrences page answer [blockOccurrence page name tail body.written] front back := by
  simp [Outline.Place.fill, Outline.occurrences, aroundOccurrences,
    Outline.occurrences_eq_nil leaf, Outline.evaluated_eq_written leaf]

theorem evaluated_between (leaf : body.names = []) (answer : Occurrence → Text) :
    ((Outline.Place.between front back).fill name tail body).evaluated answer page =
      front.evaluated answer page ++
        (Text.lines (answer (blockOccurrence page name tail body.written)) ++
          back.evaluated answer page) := by
  simp [Outline.Place.fill, Outline.evaluated, Outline.evaluated_eq_written leaf]

theorem areLines_leaf {order : List Registration}
    (valid : ∀ s ∈ order, Text.isName s.name = true)
    (nested : ((Outline.Place.between front back).fill name tail body).WellNested order) :
    Text.AreLines (leafLines name tail body.written) := by
  have lines := Outline.areLines_written valid nested
  rw [written_between, around, Text.areLines_append, Text.areLines_append] at lines
  exact lines.2.1

end Between

/-- An outline whose evaluation meets one failure, of the block at a place, and nothing but quiet
answers otherwise. -/
structure FailsOnce (engine : Engine) (page : Entries) (place : Outline.Place) (name tail : Text)
    (body : Outline) : Prop where
  nested : (place.fill name tail body).WellNested engine.registry.sorted
  leaf : body.names = []
  fails : engine.registry.FailsOn (blockOccurrence page name tail body.written)
  others : ∃ os, ((place.fill name tail body).occurrences engine.registry.outcome page).Perm
      (blockOccurrence page name tail body.written :: os) ∧
    ∀ o ∈ os, engine.registry.AnswersQuietly o

namespace FailsOnce

variable {front back : Outline}

theorem quiet_beside (h : FailsOnce engine page (.between front back) name tail body) :
    ∀ o ∈ front.occurrences engine.registry.outcome page ++
      back.occurrences engine.registry.outcome page, engine.registry.AnswersQuietly o := by
  obtain ⟨os, meets, quiet⟩ := h.others
  rw [occurrences_between h.leaf, aroundOccurrences, List.singleton_append] at meets
  have beside := (List.perm_cons _).1 (List.perm_middle.symm.trans meets)
  intro o ho
  exact quiet o (beside.subset ho)

/-- The run with the failure: the failed block stays, and everything beside it is evaluated. -/
theorem process_failed (wf : engine.registry.WellFormed) (warn : engine.policy = .warn)
    (h : FailsOnce engine page (.between front back) name tail body) :
    (process engine page
        (Text.ofLines ((Outline.Place.between front back).fill name tail body).written)).Yields
      (Text.ofLines (front.evaluated engine.registry.outcome page ++
        (leafLines name tail body.written ++ back.evaluated engine.registry.outcome page)))
      (callsFor engine.registry.sorted (((Outline.Place.between front back).fill name tail
        body).occurrences engine.registry.outcome page)) := by
  obtain ⟨frontNested, blockNested⟩ := (Outline.wellNested_append _ _).1 h.nested
  obtain ⟨registered, ⟨-, ends⟩, -, bodyNested, backNested⟩ := blockNested
  have bare := Outline.isMarked_of_mem_written bodyNested h.leaf
  have ls := areLines_leaf wf.isName_of_mem_sorted h.nested
  obtain ⟨quietFront, quietBack⟩ := List.forall_mem_append.1 h.quiet_beside
  have start := underway_of_wellFormed page wf (inert_leaf wf registered ends bare ls h.fails) ls
    frontNested backNested (by simpa using h.fails) quietFront quietBack
    (by simp [around, leafLines])
  rw [written_between, occurrences_between h.leaf]
  have done := process_yields start.run
  rwa [warn] at done

/-- The run with a line in the place of the failed block. -/
theorem process_placeholder (wf : engine.registry.WellFormed) (warn : engine.policy = .warn)
    (h : FailsOnce engine page (.between front back) name tail body) {line : Text}
    (free : '\n' ∉ line) (unmarked : isMarked line = false) :
    (process (engine.orPlaceholder line) page
        (Text.ofLines ((Outline.Place.between front back).fill name tail body).written)).result =
      .ok (Text.ofLines (front.evaluated engine.registry.outcome page ++
        ([line] ++ back.evaluated engine.registry.outcome page))) := by
  have lines := Text.lines_of_notMem free
  have quietLine : Quiet line := by
    rw [Quiet, LineReader.Lacks, lines]
    simpa using unmarked
  obtain ⟨quietFront, quietBack⟩ := List.forall_mem_append.1 h.quiet_beside
  -- beside the failed block the two engines answer alike
  have same : ∀ o, engine.registry.AnswersQuietly o →
      engine.registry.outcome o = (engine.orPlaceholder line).registry.outcome o := fun o ho =>
    (wf.outcome_orPlaceholder ho).symm
  obtain ⟨frontMeets, frontLines⟩ := Outline.evaluation_congr fun o ho => same o (quietFront o ho)
  obtain ⟨backMeets, backLines⟩ := Outline.evaluation_congr fun o ho => same o (quietBack o ho)
  have nested : ((Outline.Place.between front back).fill name tail body).WellNested
      (engine.orPlaceholder line).registry.sorted := by
    rw [Engine.orPlaceholder, Registry.sorted_orPlaceholder]
    exact h.nested.orPlaceholder
  have quiet : ∀ o ∈ ((Outline.Place.between front back).fill name tail body).occurrences
      (engine.orPlaceholder line).registry.outcome page,
      (engine.orPlaceholder line).registry.AnswersQuietly o := by
    rw [occurrences_between h.leaf, aroundOccurrences, ← frontMeets, ← backMeets]
    intro o ho
    rcases List.mem_append.1 ho with ho | ho
    · exact (quietFront o ho).orPlaceholder
    · rcases List.mem_append.1 ho with ho | ho
      · rw [List.mem_singleton.1 ho]
        exact h.fails.orPlaceholder quietLine
      · exact (quietBack o ho).orPlaceholder
  have wellFormed : (engine.orPlaceholder line).registry.WellFormed := wf.orPlaceholder
  have done := process_yields (run_wellNested page wellFormed _ nested quiet)
  have policy : (engine.orPlaceholder line).policy = .warn := warn
  have placed : (engine.orPlaceholder line).registry.outcome
      (blockOccurrence page name tail body.written) = line := wf.placeholder_of_failsOn h.fails
  rw [policy, evaluated_between h.leaf, ← frontLines, ← backLines, placed, lines] at done
  exact done.result

/-- Between other items a failed block leaves a run as it should be. -/
theorem isolated_between (wf : engine.registry.WellFormed) (warn : engine.policy = .warn)
    (h : FailsOnce engine page (.between front back) name tail body) :
    Isolated engine page ((Outline.Place.between front back).fill name tail body)
      (blockOccurrence page name tail body.written) := by
  have failed := h.process_failed wf warn
  let before := Text.beforeLine (front.evaluated engine.registry.outcome page)
  let behind := Text.afterLine (back.evaluated engine.registry.outcome page)
  have pieces : ∀ lines : List Text, lines ≠ [] →
      Text.ofLines (front.evaluated engine.registry.outcome page ++
        (lines ++ back.evaluated engine.registry.outcome page)) =
          Text.join (Text.ofLines lines) [before, behind] := by
    intro lines ne
    rw [Text.ofLines_append_right _ (List.append_ne_nil_of_left_ne_nil ne _),
      Text.ofLines_append ne]
    simp [Text.join, List.intercalate, before, behind]
  constructor
  · rw [failed.calls]
    refine callsFor_perm wf.sorted_distinct fun o ho => ?_
    exact Outline.mem_order_of_mem_names h.nested (Outline.name_mem_of_mem_occurrences ho)
  · refine ⟨[before, behind], ?_, fun line free unmarked => ?_⟩
    · rw [failed.result, pieces (leafLines name tail body.written) (List.cons_ne_nil _ _)]
      rfl
    · rw [h.process_placeholder wf warn free unmarked, pieces [line] (List.cons_ne_nil _ _)]
      simp [Text.ofLines_cons]

end FailsOnce

/-- Around a failed block in the body of another one, evaluation meets a block with a closing line
in its body. -/
theorem exists_enclosing {order : List Registration} (valid : ∀ s ∈ order, Text.isName s.name = true)
    (leaf : body.names = []) {answer : Occurrence → Text}
    (raw : answer (blockOccurrence page name tail body.written) =
      (blockOccurrence page name tail body.written).raw) {place : Outline.Place}
    (enclosed : place.isEnclosed = true) (nested : (place.fill name tail body).WellNested order) :
    ∃ outer args lines, closingLine ∈ lines ∧
      Text.AreLines (leafLines outer args lines) ∧
      blockOccurrence page outer args lines ∈ (place.fill name tail body).occurrences answer page := by
  induction place with
  | between front back => simp [Outline.Place.isEnclosed] at enclosed
  | inside front outer args place back ih =>
    obtain ⟨-, blockNested⟩ := (Outline.wellNested_append _ _).1 nested
    obtain ⟨⟨r, hr, rfl, -⟩, ⟨argsFree, -⟩, -, innerNested, -⟩ := blockNested
    have meets : (Outline.Place.fill name tail body (.inside front r.name args place back)).occurrences
        answer page = front.occurrences answer page ++
          ((place.fill name tail body).occurrences answer page ++
            blockOccurrence page r.name args ((place.fill name tail body).evaluated answer page) ::
              back.occurrences answer page) := by
      simp [Outline.Place.fill, Outline.occurrences]
    rw [meets]
    -- the innermost block around the failed one is the one with its closing line in the body
    cases place with
    | inside front' outer' args' place' back' =>
      obtain ⟨inner, tails, lines, closing, ls, mem⟩ := ih rfl innerNested
      exact ⟨inner, tails, lines, closing, ls,
        List.mem_append_right _ (List.mem_append_left _ mem)⟩
    | between front' back' =>
      refine ⟨r.name, args, _, ?_, ?_, List.mem_append_right _ (List.mem_append_right _
        List.mem_cons_self)⟩
      · rw [evaluated_between leaf, raw]
        have stays : Text.lines (blockOccurrence page name tail body.written).raw =
            leafLines name tail body.written :=
          Text.lines_ofLines (areLines_leaf valid innerNested) (List.cons_ne_nil _ _)
        rw [stays]
        simp [leafLines]
      · have lines : Text.AreLines (((Outline.Place.between front' back').fill name tail
            body).evaluated answer page) := Outline.areLines_evaluated innerNested
        rw [leafLines, Text.areLines_cons, Text.areLines_append]
        exact ⟨newline_notMem_openingLine (valid r hr) argsFree, lines,
          by simp [newline_notMem_closingLine]⟩

/-- In the body of another block a failed block takes from the block around it, and from its handler,
what stands behind the closing line of the failed one. -/
theorem not_isolated_inside (wf : engine.registry.WellFormed) {place : Outline.Place}
    (enclosed : place.isEnclosed = true) (h : FailsOnce engine page place name tail body) :
    ¬ Isolated engine page (place.fill name tail body)
      (blockOccurrence page name tail body.written) := by
  intro isolated
  obtain ⟨outer, args, lines, closing, ls, mem⟩ :=
    exists_enclosing wf.isName_of_mem_sorted h.leaf (wf.outcome_of_failsOn h.fails) enclosed h.nested
  -- evaluation has a call with a closing line in the body; the engine makes no such call
  obtain ⟨c, hc, same⟩ := List.mem_map.1 (isolated.calls.mem_iff.2 mem)
  have bare : ClosedByLast c.occurrence := process_closedByLast wf page _ c hc
  rw [same] at bare
  exact not_closedByLast ls closing bare

/-- The failure of a block's handler is isolated exactly if no other block stands around it. -/
theorem isolated_iff (wf : engine.registry.WellFormed) (warn : engine.policy = .warn)
    {place : Outline.Place} (h : FailsOnce engine page place name tail body) :
    Isolated engine page (place.fill name tail body)
        (blockOccurrence page name tail body.written) ↔
      place.isEnclosed = false := by
  cases place with
  | between front back => exact iff_of_true (h.isolated_between wf warn) rfl
  | inside front outer args place back =>
    exact iff_of_false (not_isolated_inside wf rfl h) (by simp [Outline.Place.isEnclosed])

end Failure

/-- A failed block between a block and an inline directive. -/
theorem isolated_iff_beside_card :
    let boom : Registration :=
      ⟨"boom", .block, 10, ⟨.custom none, fun _ => .error (.reported (.text "kaboom"))⟩⟩
    let fine : Registration := ⟨"fine", .inline, 20, ⟨.custom none, fun _ => .ok (.text "OK")⟩⟩
    let card : Registration := ⟨"card", .block, 30, ⟨.custom none, fun o => .ok (.text o.content)⟩⟩
    let engine : Engine := ⟨{ registrations := [boom, fine, card] }, .warn, "---"⟩
    let place : Outline.Place :=
      .between (.block "card" [] (.line "y" .empty) .empty) (.inline "fine" " x".toList .empty)
    let body : Outline := .line "keep   this" .empty
    engine.registry.WellFormed ∧ engine.policy = .warn ∧
      FailsOnce engine [] place "boom" "  spaced  ".toList body ∧
      (Isolated engine [] (place.fill "boom" "  spaced  ".toList body)
          (blockOccurrence [] "boom" "  spaced  ".toList body.written) ↔
        place.isEnclosed = false) := by
  intro boom fine card engine place body
  have wf : engine.registry.WellFormed := ⟨by decide, by decide, by decide⟩
  have once : FailsOnce engine [] place "boom" "  spaced  ".toList body := by
    refine ⟨?_, rfl, ⟨boom, List.mem_cons_self, rfl, _, _, rfl, rfl⟩, _, List.Perm.swap _ _ _,
      by decide +kernel⟩
    rw [Registry.sorted_of_pairwise (by decide)]
    decide +kernel
  exact ⟨wf, rfl, once, isolated_iff wf rfl once⟩

/-- A failed block in the body of another one. The block around it is called for with what stands
before the closing line of the failed one, and what stands behind it is left over. -/
theorem not_isolated_inside_outer :
    let boom : Registration :=
      ⟨"boom", .block, 10, ⟨.custom none, fun _ => .error (.reported (.text "kaboom"))⟩⟩
    let outer : Registration := ⟨"outer", .block, 20, ⟨.custom none, fun _ => .ok (.text "OUT")⟩⟩
    let engine : Engine := ⟨{ registrations := [boom, outer] }, .warn, "---"⟩
    let place : Outline.Place :=
      .inside .empty "outer" [] (.between .empty (.line "tail" .empty)) .empty
    let d : Outline := place.fill "boom" [] (.line "x" .empty)
    Text.ofLines d.written = "::outer\n::boom\nx\n::end\ntail\n::end".toList ∧
      engine.registry.WellFormed ∧ FailsOnce engine [] place "boom" [] (.line "x" .empty) ∧
      (process engine [] (Text.ofLines d.written)).result = .ok "OUT\ntail\n::end".toList ∧
      (process engine [] (Text.ofLines d.written)).trace.calls.map (·.occurrence.content) =
        ["x".toList, "::boom\nx".toList] ∧
      (d.occurrences engine.registry.outcome []).map (·.content) =
        ["x".toList, "::boom\nx\n::end\ntail".toList] ∧
      ¬ Isolated engine [] d (blockOccurrence [] "boom" [] ["x"]) := by
  intro boom outer engine place d
  have sorted : engine.registry.sorted = [boom, outer] :=
    Registry.sorted_of_pairwise (by decide)
  have result : (process engine [] (Text.ofLines d.written)).result =
      .ok "OUT\ntail\n::end".toList := by
    rw [process, expand, sorted]
    decide +kernel
  have calls : (process engine [] (Text.ofLines d.written)).trace.calls.map
      (·.occurrence.content) = ["x".toList, "::boom\nx".toList] := by
    rw [process, expand, sorted]
    decide +kernel
  have meets : (d.occurrences engine.registry.outcome []).map (·.content) =
      ["x".toList, "::boom\nx\n::end\ntail".toList] := by
    decide +kernel
  refine ⟨by decide, ⟨by decide, by decide, by decide⟩, ?_, result, calls, meets, ?_⟩
  · refine ⟨?_, rfl, ⟨boom, List.mem_cons_self, rfl, _, _, rfl, rfl⟩, _, List.Perm.refl _, by decide +kernel⟩
    rw [sorted]
    decide +kernel
  · intro isolated
    have same := isolated.calls.map (·.content)
    rw [List.map_map, Function.comp_def, calls, meets] at same
    revert same
    decide

end Engine
end PageDirectives
