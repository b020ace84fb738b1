import Mathlib.Data.List.Forall2
import Mathlib.Data.List.Induction
import PageDirectives.Directive.Registry
/-!
Values as options. A map gives its entries, a value that counts as false gives none, and any other
value has to go through pairs, each with a first part that can be a key. The first item that is no
such pair is the error.
-/
namespace PageDirectives

theorem Value.isTruthy_of_items? {v : Value} {items : List Value} (through : v.items? = some items) :
    v.isTruthy = !items.isEmpty := by
  cases v with
  | text | bytes | pair | list | set | map =>
    obtain rfl := Option.some.inj through
    simp [isTruthy]
  | _ => exact nomatch through

namespace Options

/-- An item gives an entry: it goes through its key and its value. -/
structure IsPair (item : Value) (entry : Value × Value) : Prop where
  items : item.items? = some [entry.1, entry.2]
  key : entry.1.unhashable? = none

/-- What is wrong with an item that gives no entry, by its place. -/
inductive Misfit (index : Nat) (item : Value) : OptionsError → Prop
  | single (none : item.items? = none) : Misfit index item (.notASequence index)
  | length {parts : List Value} (through : item.items? = some parts) (ne : parts.length ≠ 2) :
    Misfit index item (.wrongLength index parts.length)
  | key {key value part : Value} (through : item.items? = some [key, value])
    (no : key.unhashable? = some part) : Misfit index item (.unhashable part.kind)

/-- A value gives entries as options. -/
inductive Gives : Value → Entries → Prop
  | map (entries : Entries) : Gives (.map entries) entries
  | nothing {v : Value} (counts : v.isTruthy = false) : Gives v []
  | pairs {v : Value} {items : List Value} {pairs : List (Value × Value)}
    (other : ∀ entries, v ≠ .map entries) (through : v.items? = some items)
    (each : List.Forall₂ IsPair items pairs) : Gives v (Entries.ofList pairs)

/-- A value fails to give entries: it counts as true and has no items, or the first of its items
that gives no entry is at fault. -/
inductive Fails : Value → OptionsError → Prop
  | single {v : Value} (counts : v.isTruthy = true) (none : v.items? = none) :
    Fails v (.notIterable v.qualifiedKind)
  | item {v item : Value} {before rest : List Value} {pairs : List (Value × Value)}
    {e : OptionsError} (other : ∀ entries, v ≠ .map entries)
    (through : v.items? = some (before ++ item :: rest)) (each : List.Forall₂ IsPair before pairs)
    (misfit : Misfit before.length item e) : Fails v e

section Items

variable {index : Nat} {item : Value} {entries : Entries} {e : OptionsError}

theorem isPair_or_misfit (index : Nat) (item : Value) :
    (∃ entry, IsPair item entry) ∨ ∃ e, Misfit index item e := by
  cases through : item.items? with
  | none => exact .inr ⟨_, .single through⟩
  | some parts =>
    by_cases two : parts.length = 2
    · obtain ⟨key, value, rfl⟩ := List.length_eq_two.1 two
      cases no : key.unhashable? with
      | none => exact .inl ⟨(key, value), through, no⟩
      | some part => exact .inr ⟨_, .key through no⟩
    · exact .inr ⟨_, .length through two⟩

/-- The items are pairs, or there is a first one that is not. -/
theorem forall₂_isPair_or_misfit (items : List Value) :
    (∃ pairs, List.Forall₂ IsPair items pairs) ∨ ∃ before item rest pairs e,
      items = before ++ item :: rest ∧ List.Forall₂ IsPair before pairs ∧
        Misfit before.length item e := by
  -- From the end of the items, so that what comes behind a misfit does not matter.
  induction items using List.reverseRecOn with
  | nil => exact .inl ⟨[], .nil⟩
  | append_singleton items item ih =>
    rcases ih with ⟨pairs, each⟩ | ⟨before, first, rest, pairs, e, rfl, each, misfit⟩
    · rcases isPair_or_misfit items.length item with ⟨entry, pair⟩ | ⟨e, misfit⟩
      · exact .inl ⟨pairs ++ [entry], List.rel_append each (.cons pair .nil)⟩
      · exact .inr ⟨items, item, [], pairs, e, rfl, each, misfit⟩
    · exact .inr ⟨before, first, rest ++ [item], pairs, e, by simp, each, misfit⟩

theorem ofItems_cons_of_isPair {entry : Value × Value} (pair : IsPair item entry)
    (rest : List Value) :
    ofItems index entries (item :: rest) =
      ofItems (index + 1) (entries.put entry.1 entry.2) rest := by
  rw [ofItems, pair.items]
  simp only [pair.key]

theorem ofItems_cons_of_misfit (misfit : Misfit index item e) (rest : List Value) :
    ofItems index entries (item :: rest) = .error e := by
  rw [ofItems]
  cases misfit with
  | single none => rw [none]
  | @length parts through ne =>
    rw [through]
    split
    · next same => exact nomatch same
    · next same => exact absurd (by rw [Option.some.inj same]; rfl) ne
    · next same => rw [Option.some.inj same]
  | key through no =>
    rw [through]
    simp only [no]

theorem ofItems_append {before : List Value} {pairs : List (Value × Value)}
    (each : List.Forall₂ IsPair before pairs) (index : Nat) (entries : Entries)
    (rest : List Value) :
    ofItems index entries (before ++ rest) =
      ofItems (index + before.length) (pairs.foldl (fun all p => all.put p.1 p.2) entries) rest := by
  induction each generalizing index entries with
  | nil => rfl
  | @cons item entry before pairs pair each ih =>
    rw [List.cons_append, ofItems_cons_of_isPair pair, ih, List.foldl_cons, List.length_cons]
    congr 1
    omega

end Items

section Values

variable {v : Value} {given : Entries} {e : OptionsError}

theorem entries_of_not_map (other : ∀ entries, v ≠ .map entries) :
    entries v = if !v.isTruthy then .ok [] else
      match v.items? with
      | some items => ofItems 0 [] items
      | none => .error (.notIterable v.qualifiedKind) := by
  cases v with
  | map entries => exact absurd rfl (other entries)
  | _ => rfl

theorem entries_of_items? {items : List Value} (other : ∀ entries, v ≠ .map entries)
    (through : v.items? = some items) : entries v = ofItems 0 [] items := by
  rw [entries_of_not_map other, through, Value.isTruthy_of_items? through]
  cases items <;> rfl

theorem entries_of_gives (gives : Gives v given) : entries v = .ok given := by
  cases gives with
  | map => rfl
  | nothing counts =>
    cases v with
    | map entries =>
      obtain rfl : entries = [] := by simpa [Value.isTruthy] using counts
      rfl
    | _ =>
      rw [entries_of_not_map (by simp), counts]
      rfl
  | @pairs _ items pairs other through each =>
    have read := ofItems_append each 0 [] []
    rw [List.append_nil, ofItems] at read
    rw [entries_of_items? other through, read, Entries.ofList]

theorem entries_of_fails (fails : Fails v e) : entries v = .error e := by
  cases fails with
  | single counts none =>
    rw [entries_of_not_map (by rintro entries rfl; exact nomatch none), counts, none]
    rfl
  | @item item before rest pairs _ other through each misfit =>
    rw [entries_of_items? other through, ofItems_append each]
    exact ofItems_cons_of_misfit (by rwa [Nat.zero_add]) rest

theorem gives_or_fails (v : Value) : (∃ given, Gives v given) ∨ ∃ e, Fails v e := by
  by_cases other : ∀ entries, v ≠ .map entries
  · cases through : v.items? with
    | none =>
      cases counts : v.isTruthy with
      | false => exact .inl ⟨[], .nothing counts⟩
      | true => exact .inr ⟨_, .single counts through⟩
    | some items =>
      rcases forall₂_isPair_or_misfit items with
        ⟨pairs, each⟩ | ⟨before, item, rest, pairs, e, rfl, each, misfit⟩
      · exact .inl ⟨_, .pairs other through each⟩
      · exact .inr ⟨e, .item other through each misfit⟩
  · simp only [not_forall, not_not] at other
    obtain ⟨entries, rfl⟩ := other
    exact .inl ⟨entries, .map entries⟩

theorem entries_eq_ok_iff : entries v = .ok given ↔ Gives v given := by
  refine ⟨fun read => ?_, entries_of_gives⟩
  rcases gives_or_fails v with ⟨others, gives⟩ | ⟨e, fails⟩
  · obtain rfl := Except.ok.inj ((entries_of_gives gives).symm.trans read)
    exact gives
  · exact nomatch (entries_of_fails fails).symm.trans read

/-- A text of two characters is a pair like any other. -/
example : entries (.list [.pair (.text "type") (.text "both"), .text "ab"]) =
    .ok [(.text "type", .text "both"), (.text ['a'], .text ['b'])] := rfl

theorem entries_eq_error_iff : entries v = .error e ↔ Fails v e := by
  refine ⟨fun read => ?_, entries_of_fails⟩
  rcases gives_or_fails v with ⟨given, gives⟩ | ⟨other, fails⟩
  · exact nomatch (entries_of_gives gives).symm.trans read
  · obtain rfl := Except.error.inj ((entries_of_fails fails).symm.trans read)
    exact fails

end Values

end Options
end PageDirectives
