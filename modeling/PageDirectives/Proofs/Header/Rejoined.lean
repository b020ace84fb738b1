import PageDirectives.Proofs.Header.Fences
import PageDirectives.Proofs.Yaml.BlankText
/-!
Joined documents read again. Joining puts a fence behind the last line of a header, and none of its
own lines is one, so reading stops at that fence and at no other: not at fences in the body, nor at
hyphens in the header. What comes back are the header and the body as they were put in.
-/
namespace PageDirectives

open Text

namespace Text

/-- A text that ends with a line feed is made of closed lines. -/
theorem exists_closed_lines {text : Text} (closed : text.getLast? = some '\n') :
    ∃ inner, inner ≠ [] ∧ text = beforeLine inner ∧ lines text = inner ++ [[]] := by
  obtain ⟨front, rfl⟩ := List.getLast?_eq_some_iff.1 closed
  refine ⟨lines front, lines_ne_nil front, (beforeLine_lines front).symm, ?_⟩
  have ls : AreLines (lines front ++ [[]]) := by
    simpa only [areLines_append, areLines_cons] using ⟨areLines_lines front, by simp⟩
  have joined : ofLines (lines front ++ [[]]) = front ++ ['\n'] := by
    rw [ofLines_append_right _ (by simp), beforeLine_lines]
    exact List.append_nil _
  rw [← joined, lines_ofLines ls (by simp)]

end Text

namespace Source

/-- A header gives fields if it is a mapping, and none if it is empty or of blanks alone. -/
theorem fieldsOf_eq_ok_iff {raw : Text} {fields : Entries} :
    fieldsOf raw = .ok fields ↔
      Yaml.read raw = .ok (.map fields) ∨
        (Yaml.read raw = .ok .null ∨ isAllBlank raw = true) ∧ fields = [] := by
  rw [fieldsOf]
  cases blank : isAllBlank raw with
  | true =>
    have noMap : Yaml.read raw ≠ .ok (.map fields) := Yaml.read_ne_map blank fields
    simp only [if_true, Except.ok.injEq, noMap, false_or, or_true, true_and]
    exact eq_comm
  | false =>
    simp only [Bool.false_eq_true, if_false, or_false]
    cases read : Yaml.read raw with
    | error e => simp
    | ok v => cases v <;> simp [eq_comm]

end Source

namespace Headed

/-- Reading a joined document stops at the fence that joining wrote. -/
theorem ofText?_join {raw : Text} (closed : raw.getLast? = some '\n')
    (bare : ∀ line ∈ lines raw, isFence line = false) (body : Text) :
    ofText? (join raw body) = some ⟨raw, body⟩ := by
  obtain ⟨inner, ne, rfl, cut⟩ := exists_closed_lines closed
  have ls : AreLines inner := by
    have all := cut ▸ areLines_lines (beforeLine inner)
    exact (areLines_append.1 all).1
  have inside : ∀ line ∈ inner, isFence line = false := fun line hline =>
    bare line (cut ▸ List.mem_append_left _ hline)
  have fenced : Fenced (join (beforeLine inner) body) fenceMark inner fenceMark (lines body) :=
    ⟨lines_join_beforeLine ls ne body, by decide, inside, by decide⟩
  rw [ofText?_eq_some_iff]
  exact ⟨_, _, _, _, fenced, by rw [ofLines_lines]⟩

theorem ofText_join_eq {raw : Text} (closed : raw.getLast? = some '\n')
    (bare : ∀ line ∈ lines raw, isFence line = false) (body : Text) :
    Source.ofText (join raw body) =
      (Source.fieldsOf raw).map fun fields => ⟨fields, raw, body⟩ := by
  rw [Source.ofText, ofText?_join closed bare body]

/-- A header of closed lines, none of them a fence, and any body come back from the document that
joining makes of them, with the fields that the header has as a mapping, or none if it is empty. -/
theorem ofText_join {raw : Text} (closed : raw.getLast? = some '\n')
    (bare : ∀ line ∈ lines raw, isFence line = false) {fields : Entries}
    (reads : Yaml.read raw = .ok (.map fields) ∨ Yaml.read raw = .ok .null ∧ fields = [])
    (body : Text) :
    Source.ofText (join raw body) = .ok ⟨fields, raw, body⟩ := by
  have given : Source.fieldsOf raw = .ok fields :=
    Source.fieldsOf_eq_ok_iff.2 (reads.imp_right fun ⟨null, same⟩ => ⟨.inl null, same⟩)
  rw [ofText_join_eq closed bare, given]
  rfl

/-- Hyphens in the header that are no fence, as they do not begin their line, and a body that begins
with a fence and holds another with blanks behind it. -/
theorem ofText_join_hyphens :
    let raw : Text := "a: |\n  ---\n"
    let body : Text := "---\nb\n---\t \n"
    let fields : Entries := [(.text "a", .text "---\n")]
    raw.getLast? = some '\n' ∧ (∀ line ∈ lines raw, isFence line = false) ∧
      Yaml.read raw = .ok (.map fields) ∧
      join raw body = "---\na: |\n  ---\n---\n---\nb\n---\t \n".toList ∧
      Source.ofText (join raw body) = .ok ⟨fields, raw, body⟩ := by
  intro raw body fields
  have closed : raw.getLast? = some '\n' := by decide
  have bare : ∀ line ∈ lines raw, isFence line = false := by decide
  have tokens : Yaml.tokens raw = [.blockMapping, .key, .scalar "a" true, .value,
      .scalar "---\n" false, .blockEnd, .finish] := by decide +kernel
  have root : Yaml.Node.ofText? raw = .ok (some (.mapping .mapping
      [(.scalar (Yaml.Kind.ofPlain "a") "a", .scalar .string "---\n")])) := by
    rw [Yaml.Node.ofText?, tokens]
    rfl
  have key : Yaml.Kind.ofPlain "a" = .string := by decide +kernel
  have reads : Yaml.read raw = .ok (.map fields) := by
    rw [Yaml.read, root, key]
    simp only [bind, Except.bind, Yaml.Node.value, Yaml.Node.fields, Yaml.Node.merged,
      Yaml.Node.own, Yaml.Node.key]
    rfl
  exact ⟨closed, bare, reads, rfl, ofText_join closed bare (.inl reads) body⟩

end Headed
end PageDirectives
