import Mathlib.Data.List.MinMax
import PageDirectives.Yaml.Meaning
/-!
All faults of a document. Looking for a value stops at no fault before all those as deep are seen,
so the one that is reported is the first of the least deep. A fault that is more than a broken rule
belongs to a scalar whose form or tag shows a kind and whose text names nothing of that kind, or to
a mapping that stands for such a scalar.
-/
namespace PageDirectives.Yaml

namespace Fault

/-- The first of the least deep among faults. -/
def foremost? (faults : List Fault) : Option Fault := faults.argmin depth

@[simp] theorem foremost?_nil : foremost? [] = none := rfl

@[simp] theorem foremost?_singleton (f : Fault) : foremost? [f] = some f := rfl

theorem foremost?_concat (faults : List Fault) (f : Fault) :
    foremost? (faults ++ [f]) = Option.merge first (foremost? faults) (some f) := by
  rw [foremost?, List.argmin_concat, ← foremost?]
  cases foremost? faults with
  | none => rfl
  | some g =>
    simp only [Option.merge_some_some, first]
    split <;> rfl

instance : Std.Associative first where
  assoc f g h := by
    simp only [first]
    grind

/-- Of faults on two sides the foremost is the first of the foremost ones on each side. -/
theorem foremost?_append (before after : List Fault) :
    foremost? (before ++ after) = Option.merge first (foremost? before) (foremost? after) := by
  induction after using List.reverseRecOn with
  | nil => simp
  | append_singleton after f ih =>
    rw [← List.append_assoc, foremost?_concat, ih, foremost?_concat]
    exact Std.Associative.assoc ..

theorem foremost?_cons (f : Fault) (rest : List Fault) :
    foremost? (f :: rest) = Option.merge first (some f) (foremost? rest) :=
  foremost?_append [f] rest

theorem first_deeper (f g : Fault) : f.deeper.first g.deeper = (f.first g).deeper := by
  simp only [first, deeper, Nat.add_lt_add_iff_right]
  split <;> rfl

/-- Depths are compared within one level. -/
theorem foremost?_map_deeper (faults : List Fault) :
    foremost? (faults.map deeper) = (foremost? faults).map deeper := by
  induction faults with
  | nil => rfl
  | cons f rest ih =>
    rw [List.map_cons, foremost?_cons, ih, foremost?_cons]
    cases foremost? rest with
    | none => rfl
    | some g => exact congrArg some (first_deeper f g)

theorem foremost?_toList (f : Option Fault) : foremost? f.toList = f := by
  cases f <;> rfl

end Fault

namespace Found

variable {α β : Type}

/-- The fault of a result that is none. -/
def fault? : Found α → Option Fault
  | .ok _ => none
  | .error f => some f

@[simp] theorem fault?_map (r : Found α) (f : α → β) : fault? (r.map f) = r.fault? := by
  cases r <;> rfl

theorem fault?_below (r : Found α) : r.below.fault? = r.fault?.map Fault.deeper := by
  cases r <;> rfl

theorem fault?_both (r : Found α) (s : Found β) :
    (both r s).fault? = Option.merge Fault.first r.fault? s.fault? := by
  cases r <;> cases s <;> rfl

theorem fault?_all_cons (r : Found α) (rest : List (Found α)) :
    (all (r :: rest)).fault? = Option.merge Fault.first r.fault? (all rest).fault? := by
  rw [all, fault?_map, fault?_both]

theorem fault?_all_nil : (all ([] : List (Found α))).fault? = Fault.foremost? [] := rfl

theorem fault?_all_append (before after : List (Found α)) :
    (all (before ++ after)).fault? =
      Option.merge Fault.first (all before).fault? (all after).fault? := by
  induction before with
  | nil =>
    rw [List.nil_append]
    cases (all after).fault? <;> rfl
  | cons r rest ih =>
    rw [List.cons_append, fault?_all_cons, fault?_all_cons, ih]
    exact (Std.Associative.assoc ..).symm

theorem fault?_all_append_of {before after : List (Found α)} {fs gs : List Fault}
    (h : (all before).fault? = Fault.foremost? fs) (h' : (all after).fault? = Fault.foremost? gs) :
    (all (before ++ after)).fault? = Fault.foremost? (fs ++ gs) := by
  rw [fault?_all_append, h, h', Fault.foremost?_append]

/-- The results that a mapping merges are known by their faults. Where something is merged that is
no mapping there are none, and that alone is the fault. -/
def MergesAs (merged : Found (List (Found α))) : Option (List Fault) → Prop
  | none => merged = .error (.here .malformed)
  | some faults => ∃ found, merged = .ok found ∧ (all found).fault? = Fault.foremost? faults

/-- Merging two sides goes through if it does on each, and their results are put together. -/
theorem MergesAs.combine {first more : Found (List (Found α))} {faults others : Option (List Fault)}
    {f : List (Found α) → List (Found α) → List (Found α)}
    {g : List Fault → List Fault → List Fault} (h : MergesAs first faults)
    (h' : MergesAs more others)
    (both : ∀ a b fs gs, (all a).fault? = Fault.foremost? fs →
      (all b).fault? = Fault.foremost? gs → (all (f a b)).fault? = Fault.foremost? (g fs gs)) :
    MergesAs (do let a ← first; .ok (f a (← more)))
      (do let fs ← faults; some (g fs (← others))) := by
  cases faults with
  | none =>
    obtain rfl := h
    rfl
  | some fs =>
    obtain ⟨a, rfl, reported⟩ := h
    cases others with
    | none =>
      obtain rfl := h'
      rfl
    | some gs =>
      obtain ⟨b, rfl, reported'⟩ := h'
      exact ⟨f a b, rfl, both a b fs gs reported reported'⟩

theorem MergesAs.of_all {found : List (Found α)} {faults : List Fault}
    (h : (all found).fault? = Fault.foremost? faults) :
    MergesAs (.ok found : Found (List (Found α))) (some faults) :=
  ⟨found, rfl, h⟩

end Found

/-- Only words for truth, numbers and timestamps have texts that break no rule and name nothing. -/
theorem Scalar.kind_mem_of_error {kind : Kind} {text : Text} {e : YamlError}
    (h : Scalar.value kind text = .error e) (other : e ≠ .malformed) :
    kind ∈ [Kind.truth, .integer, .float, .timestamp] := by
  cases kind with
  | truth | integer | float | timestamp => decide
  | null | string => cases h
  | binary =>
    refine absurd ?_ other
    rw [Scalar.value, Scalar.binary] at h
    split at h
    · split at h
      · cases h
      · exact (Except.error.inj h).symm
    · exact (Except.error.inj h).symm
  | _ => exact absurd (Except.error.inj h).symm other

namespace Node

mutual

/-- The faults of a node, in the order in which values are looked for. -/
def faults : Node → List Fault
  | scalar kind text =>
    if kind.isCollection then [kind.misfit]
    else (Found.fault? ((Scalar.value kind text).mapError .here)).toList
  | sequence kind items =>
    match kind with
    | .sequence => (itemFaults items).map .deeper
    | .orderedMap | .pairs => (pairFaults items).map .deeper
    | kind => [kind.misfit]
  | mapping kind entries =>
    match kind with
    | .mapping | .set => (fieldFaults entries).map .deeper
    | .sequence | .orderedMap | .pairs => [kind.misfit]
    | kind => (ofDefault kind (defaultText? entries)).fault?.toList

/-- The faults of nodes one after the other. -/
def itemFaults : List Node → List Fault
  | [] => []
  | n :: rest => faults n ++ itemFaults rest

/-- The faults of mappings that stand for pairs. -/
def pairFaults : List Node → List Fault
  | [] => []
  | mapping _ [(k, v)] :: rest => (faults k ++ faults v) ++ pairFaults rest
  | _ :: rest => .here .malformed :: pairFaults rest

/-- The faults of the entries of a mapping, those of merged ones first. -/
def fieldFaults : List (Node × Node) → List Fault
  | entries => ((mergedFaults? entries).map (· ++ ownFaults entries)).getD [.here .malformed]

/-- The faults of what a mapping merges, unless something among it is no mapping. -/
def mergedFaults? : List (Node × Node) → Option (List Fault)
  | [] => some []
  | (k, v) :: entries => do
    let first ← if k.kind = .merge then mergedFromFaults? v else some []
    some (first ++ (← mergedFaults? entries))

/-- The faults of a node where it is merged. -/
def mergedFromFaults? : Node → Option (List Fault)
  | mapping _ entries => do some ((← mergedFaults? entries) ++ ownFaults entries)
  | sequence _ items => mergedFromAllFaults? items
  | scalar .. => none

/-- The faults of several nodes where they are merged, those of the last one first. -/
def mergedFromAllFaults? : List Node → Option (List Fault)
  | [] => some []
  | mapping _ entries :: items => do
    let first ← mergedFaults? entries
    some ((← mergedFromAllFaults? items) ++ (first ++ ownFaults entries))
  | _ :: _ => none

/-- The faults of the entries of a mapping that are no merges. -/
def ownFaults : List (Node × Node) → List Fault
  | [] => []
  | (k, v) :: entries =>
    if k.kind = .merge then ownFaults entries
    else (keyFaults k ++ faults v) ++ ownFaults entries

/-- The faults of a node that is a key. -/
def keyFaults : Node → List Fault
  | scalar .default _ => []
  | n => if n.kind.isCollection then [.here .malformed] else faults n

end

mutual

/-- The fault that keeps a node from having a value is the first of its least deep ones. -/
theorem fault?_value : ∀ n : Node, n.value.fault? = Fault.foremost? n.faults
  | scalar kind text => by
    rw [value, faults]
    split
    · rfl
    · exact (Fault.foremost?_toList _).symm
  | sequence kind items => by
    cases kind with
    | sequence =>
      simp only [value, faults]
      rw [Found.fault?_map, Found.fault?_below, fault?_values items, Fault.foremost?_map_deeper]
    | orderedMap | pairs =>
      simp only [value, faults]
      rw [Found.fault?_map, Found.fault?_below, fault?_pairs items, Fault.foremost?_map_deeper]
    | _ =>
      simp only [value, faults]
      rfl
  | mapping kind entries => by
    cases kind with
    | mapping | set =>
      simp only [value, faults]
      rw [Found.fault?_map, Found.fault?_below, fault?_fields entries, Fault.foremost?_map_deeper]
    | sequence | orderedMap | pairs =>
      simp only [value, faults]
      rfl
    | _ =>
      simp only [value, faults]
      exact (Fault.foremost?_toList _).symm

theorem fault?_values : ∀ items : List Node,
    (Found.all (values items)).fault? = Fault.foremost? (itemFaults items)
  | [] => by
    rw [values, itemFaults]
    rfl
  | n :: rest => by
    rw [values, itemFaults, Found.fault?_all_cons, fault?_value n, fault?_values rest,
      Fault.foremost?_append]

theorem fault?_pairs : ∀ items : List Node,
    (Found.all (pairs items)).fault? = Fault.foremost? (pairFaults items)
  | [] => by
    rw [pairs, pairFaults]
    rfl
  | mapping _ [(k, v)] :: rest => by
    rw [pairs, pairFaults, Found.fault?_all_cons, Found.fault?_map, Found.fault?_both,
      fault?_value k, fault?_value v, fault?_pairs rest, Fault.foremost?_append,
      Fault.foremost?_append]
  | mapping _ [] :: rest | mapping _ (_ :: _ :: _) :: rest | scalar .. :: rest
  | sequence .. :: rest => by
    simp only [pairs, pairFaults]
    rw [Found.fault?_all_cons, fault?_pairs rest, Fault.foremost?_cons]
    rfl

theorem fault?_fields : ∀ entries : List (Node × Node),
    (fields entries).fault? = Fault.foremost? (fieldFaults entries)
  | entries => by
    have merges := mergesAs_merged entries
    rw [fields, fieldFaults]
    cases faults : mergedFaults? entries with
    | none =>
      rw [faults] at merges
      have failed : merged entries = .error (.here .malformed) := merges
      rw [failed]
      rfl
    | some fs =>
      rw [faults] at merges
      obtain ⟨found, ok, reported⟩ := merges
      rw [ok]
      exact Found.fault?_all_append_of reported (fault?_own entries)

theorem mergesAs_merged : ∀ entries : List (Node × Node),
    Found.MergesAs (merged entries) (mergedFaults? entries)
  | [] => by
    rw [merged, mergedFaults?]
    exact .of_all rfl
  | (k, v) :: entries => by
    rw [merged, mergedFaults?]
    by_cases merge : k.kind = .merge
    · rw [if_pos merge, if_pos merge]
      exact (mergesAs_mergedFrom v).combine (mergesAs_merged entries)
        fun _ _ _ _ => Found.fault?_all_append_of
    · rw [if_neg merge, if_neg merge]
      exact Found.MergesAs.combine (.of_all Found.fault?_all_nil) (mergesAs_merged entries)
        fun _ _ _ _ => Found.fault?_all_append_of

theorem mergesAs_mergedFrom : ∀ n : Node,
    Found.MergesAs (mergedFrom n) (mergedFromFaults? n)
  | mapping _ entries => by
    rw [mergedFrom, mergedFromFaults?]
    exact (mergesAs_merged entries).combine (.of_all (fault?_own entries))
      fun _ _ _ _ => Found.fault?_all_append_of
  | sequence _ items => by
    rw [mergedFrom, mergedFromFaults?]
    exact mergesAs_mergedFromAll items
  | scalar .. => by
    rw [mergedFrom, mergedFromFaults?]
    rfl

theorem mergesAs_mergedFromAll : ∀ items : List Node,
    Found.MergesAs (mergedFromAll items) (mergedFromAllFaults? items)
  | [] => by
    rw [mergedFromAll, mergedFromAllFaults?]
    exact .of_all rfl
  | mapping _ entries :: items => by
    rw [mergedFromAll, mergedFromAllFaults?]
    exact (mergesAs_merged entries).combine (mergesAs_mergedFromAll items)
      fun _ _ _ _ first more => Found.fault?_all_append_of more
        (Found.fault?_all_append_of first (fault?_own entries))
  | scalar .. :: _ | sequence .. :: _ => by
    simp only [mergedFromAll, mergedFromAllFaults?]
    rfl

theorem fault?_own : ∀ entries : List (Node × Node),
    (Found.all (own entries)).fault? = Fault.foremost? (ownFaults entries)
  | [] => by
    rw [own, ownFaults]
    rfl
  | (k, v) :: entries => by
    rw [own, ownFaults]
    split
    · exact fault?_own entries
    · rw [Found.fault?_all_cons, Found.fault?_both, fault?_key k, fault?_value v,
        fault?_own entries, Fault.foremost?_append, Fault.foremost?_append]

theorem fault?_key : ∀ n : Node, (key n).fault? = Fault.foremost? (keyFaults n)
  | scalar kind text => by
    by_cases default : kind = .default
    · rw [default, key, keyFaults]
      rfl
    · have other : ∀ word, scalar kind text = scalar .default word → False :=
        fun word same => default (scalar.inj same).1
      simp only [key, keyFaults]
      split
      · rfl
      · exact fault?_value _
  | sequence kind items => by
    simp only [key, keyFaults]
    split
    · rfl
    · exact fault?_value _
  | mapping kind entries => by
    simp only [key, keyFaults]
    split
    · rfl
    · exact fault?_value _

end

/-- A node that is part of another: the node itself, or part of an item, a key or a value of it. -/
inductive Within (part : Node) : Node → Prop
  | self : Within part part
  | item {kind : Kind} {items : List Node} {n : Node} :
      n ∈ items → Within part n → Within part (.sequence kind items)
  | key {kind : Kind} {entries : List (Node × Node)} {k v : Node} :
      (k, v) ∈ entries → Within part k → Within part (.mapping kind entries)
  | value {kind : Kind} {entries : List (Node × Node)} {k v : Node} :
      (k, v) ∈ entries → Within part v → Within part (.mapping kind entries)

/-- A node whose kind has values and whose text names none of them, and why. The text of a mapping
of such a kind is that of its default, and no such text makes a timestamp of it. -/
inductive Misnames : Node → YamlError → Prop
  | scalar {kind : Kind} {text : Text} {e : YamlError} :
      Scalar.value kind text = .error e → e ≠ .malformed → Misnames (.scalar kind text) e
  | default {kind : Kind} {entries : List (Node × Node)} {text : Text} {e : YamlError} :
      kind ≠ .timestamp → defaultText? entries = some text → Scalar.value kind text = .error e →
        e ≠ .malformed → Misnames (.mapping kind entries) e
  | timestamp {entries : List (Node × Node)} {text : Text} :
      defaultText? entries = some text → Misnames (.mapping .timestamp entries) .timestampOfMap

theorem Misnames.kind_mem {n : Node} {e : YamlError} (h : Misnames n e) :
    n.kind ∈ [Kind.truth, .integer, .float, .timestamp] := by
  cases h with
  | scalar read other => exact Scalar.kind_mem_of_error read other
  | default _ _ read other => exact Scalar.kind_mem_of_error read other
  | timestamp _ => simp [kind]

/-- A part of a node names nothing of its kind, for some cause. -/
def Harbours (n : Node) (e : YamlError) : Prop := ∃ part, Within part n ∧ Misnames part e

/-- A node among some harbours a cause. -/
def ItemHarbours (items : List Node) (e : YamlError) : Prop := ∃ n ∈ items, n.Harbours e

/-- An entry among some harbours a cause, in its key or in its value. -/
def EntryHarbours (entries : List (Node × Node)) (e : YamlError) : Prop :=
  ∃ entry ∈ entries, entry.1.Harbours e ∨ entry.2.Harbours e

section Harbouring

variable {n k v : Node} {items : List Node} {entries : List (Node × Node)} {e : YamlError}

theorem ItemHarbours.head (h : n.Harbours e) : ItemHarbours (n :: items) e :=
  ⟨n, List.mem_cons_self, h⟩

theorem ItemHarbours.tail (h : ItemHarbours items e) : ItemHarbours (n :: items) e := by
  obtain ⟨m, mem, harbours⟩ := h
  exact ⟨m, List.mem_cons_of_mem n mem, harbours⟩

theorem EntryHarbours.key (h : k.Harbours e) : EntryHarbours ((k, v) :: entries) e :=
  ⟨(k, v), List.mem_cons_self, .inl h⟩

theorem EntryHarbours.value (h : v.Harbours e) : EntryHarbours ((k, v) :: entries) e :=
  ⟨(k, v), List.mem_cons_self, .inr h⟩

theorem EntryHarbours.tail (h : EntryHarbours entries e) :
    EntryHarbours ((k, v) :: entries) e := by
  obtain ⟨entry, mem, harbours⟩ := h
  exact ⟨entry, List.mem_cons_of_mem (k, v) mem, harbours⟩

theorem Harbours.of_item {kind : Kind} (h : ItemHarbours items e) :
    (sequence kind items).Harbours e := by
  obtain ⟨n, mem, part, within, misnames⟩ := h
  exact ⟨part, .item mem within, misnames⟩

theorem Harbours.of_entry {kind : Kind} (h : EntryHarbours entries e) :
    (mapping kind entries).Harbours e := by
  obtain ⟨⟨k, v⟩, mem, ⟨part, within, misnames⟩ | ⟨part, within, misnames⟩⟩ := h
  · exact ⟨part, .key mem within, misnames⟩
  · exact ⟨part, .value mem within, misnames⟩

end Harbouring

end Node

/-- Of some faults each is a broken rule, or its cause is among some. -/
def Fault.Explained (causes : YamlError → Prop) (faults : List Fault) : Prop :=
  ∀ f ∈ faults, f.cause = .malformed ∨ causes f.cause

namespace Fault.Explained

variable {causes others : YamlError → Prop} {faults more : List Fault}

theorem nil : Explained causes [] := fun _ mem => absurd mem List.not_mem_nil

theorem malformed {depth : Nat} : Explained causes [⟨depth, .malformed⟩] :=
  List.forall_mem_singleton.2 (.inl rfl)

theorem imp (h : Explained causes faults) (wider : ∀ e, causes e → others e) :
    Explained others faults :=
  fun f mem => (h f mem).imp_right (wider f.cause)

theorem append (h : Explained causes faults) (h' : Explained causes more) :
    Explained causes (faults ++ more) :=
  List.forall_mem_append.2 ⟨h, h'⟩

theorem deeper (h : Explained causes faults) : Explained causes (faults.map .deeper) :=
  List.forall_mem_map.2 h

/-- A single result fails with a broken rule or for a cause among some. -/
theorem of_result {α : Type} {r : Found α}
    (h : ∀ f, r = .error f → f.cause = .malformed ∨ causes f.cause) :
    Explained causes r.fault?.toList := by
  cases r with
  | ok a => exact nil
  | error f => exact List.forall_mem_singleton.2 (h f rfl)

end Fault.Explained

namespace Node

open Fault (Explained)

theorem explained_scalar (kind : Kind) (text : Text) :
    Explained (scalar kind text).Harbours
      (Found.fault? ((Scalar.value kind text).mapError .here)).toList := by
  refine .of_result fun f failed => ?_
  cases read : Scalar.value kind text with
  | ok v => simp [read, Except.mapError] at failed
  | error e =>
    rw [read] at failed
    obtain rfl := Except.error.inj failed
    by_cases rule : e = .malformed
    · exact .inl rule
    · exact .inr ⟨_, .self, .scalar read rule⟩

theorem explained_default (kind : Kind) (entries : List (Node × Node)) :
    Explained (mapping kind entries).Harbours
      (ofDefault kind (defaultText? entries)).fault?.toList := by
  refine .of_result fun f failed => ?_
  cases given : defaultText? entries with
  | none =>
    rw [given] at failed
    obtain rfl := Except.error.inj failed
    exact .inl rfl
  | some text =>
    rw [given, ofDefault] at failed
    split at failed
    · next same =>
      obtain rfl := Except.error.inj failed
      subst same
      exact .inr ⟨_, .self, .timestamp given⟩
    · next other =>
      cases read : Scalar.value kind text with
      | ok v => simp [read, Except.mapError] at failed
      | error e =>
        rw [read] at failed
        obtain rfl := Except.error.inj failed
        by_cases rule : e = .malformed
        · exact .inl rule
        · exact .inr ⟨_, .self, .default other given read rule⟩

mutual

/-- Every fault of a node is a broken rule, or a part of the node names nothing of its kind. -/
theorem explained_faults : ∀ n : Node, Explained n.Harbours n.faults
  | scalar kind text => by
    rw [faults]
    split
    · exact .malformed
    · exact explained_scalar kind text
  | sequence kind items => by
    cases kind with
    | sequence =>
      simp only [faults]
      exact ((explained_items items).imp fun _ => .of_item).deeper
    | orderedMap | pairs =>
      simp only [faults]
      exact ((explained_pairs items).imp fun _ => .of_item).deeper
    | _ =>
      simp only [faults]
      exact .malformed
  | mapping kind entries => by
    cases kind with
    | mapping | set =>
      simp only [faults]
      exact ((explained_fields entries).imp fun _ => .of_entry).deeper
    | sequence | orderedMap | pairs =>
      simp only [faults]
      exact .malformed
    | _ =>
      simp only [faults]
      exact explained_default _ entries

theorem explained_items : ∀ items : List Node,
    Explained (ItemHarbours items) (itemFaults items)
  | [] => by
    rw [itemFaults]
    exact .nil
  | n :: rest => by
    rw [itemFaults]
    exact ((explained_faults n).imp fun _ => .head).append
      ((explained_items rest).imp fun _ => .tail)

theorem explained_pairs : ∀ items : List Node,
    Explained (ItemHarbours items) (pairFaults items)
  | [] => by
    rw [pairFaults]
    exact .nil
  | mapping _ [(k, v)] :: rest => by
    rw [pairFaults]
    have entry : Explained (EntryHarbours [(k, v)]) (faults k ++ faults v) :=
      ((explained_faults k).imp fun _ => .key).append ((explained_faults v).imp fun _ => .value)
    exact (entry.imp fun _ h => .head (.of_entry h)).append
      ((explained_pairs rest).imp fun _ => .tail)
  | mapping _ [] :: rest | mapping _ (_ :: _ :: _) :: rest | scalar .. :: rest
  | sequence .. :: rest => by
    simp only [pairFaults]
    exact .append .malformed ((explained_pairs rest).imp fun _ => .tail)

theorem explained_fields : ∀ entries : List (Node × Node),
    Explained (EntryHarbours entries) (fieldFaults entries)
  | entries => by
    rw [fieldFaults]
    cases merged : mergedFaults? entries with
    | none => exact .malformed
    | some fs => exact (explained_merged entries fs merged).append (explained_own entries)

theorem explained_merged : ∀ (entries : List (Node × Node)) (fs : List Fault),
    mergedFaults? entries = some fs → Explained (EntryHarbours entries) fs
  | [], fs, h => by
    rw [mergedFaults?] at h
    obtain rfl := Option.some.inj h
    exact .nil
  | (k, v) :: entries, fs, h => by
    rw [mergedFaults?] at h
    by_cases merge : k.kind = .merge
    · rw [if_pos merge] at h
      obtain ⟨first, found, h⟩ := Option.bind_eq_some_iff.1 h
      obtain ⟨later, found', same⟩ := Option.bind_eq_some_iff.1 h
      obtain rfl := Option.some.inj same
      exact ((explained_mergedFrom v first found).imp fun _ => .value).append
        ((explained_merged entries later found').imp fun _ => .tail)
    · rw [if_neg merge] at h
      obtain ⟨first, nothing, h⟩ := Option.bind_eq_some_iff.1 h
      obtain ⟨later, found, same⟩ := Option.bind_eq_some_iff.1 h
      obtain rfl := Option.some.inj nothing
      obtain rfl := Option.some.inj same
      exact (explained_merged entries later found).imp fun _ => .tail

theorem explained_mergedFrom : ∀ (n : Node) (fs : List Fault),
    mergedFromFaults? n = some fs → Explained n.Harbours fs
  | mapping _ entries, fs, h => by
    rw [mergedFromFaults?] at h
    obtain ⟨merged, found, same⟩ := Option.bind_eq_some_iff.1 h
    obtain rfl := Option.some.inj same
    exact ((explained_merged entries merged found).append (explained_own entries)).imp
      fun _ => .of_entry
  | sequence _ items, fs, h => by
    rw [mergedFromFaults?] at h
    exact (explained_mergedFromAll items fs h).imp fun _ => .of_item
  | scalar .., fs, h => by
    rw [mergedFromFaults?] at h
    cases h

theorem explained_mergedFromAll : ∀ (items : List Node) (fs : List Fault),
    mergedFromAllFaults? items = some fs → Explained (ItemHarbours items) fs
  | [], fs, h => by
    rw [mergedFromAllFaults?] at h
    obtain rfl := Option.some.inj h
    exact .nil
  | mapping _ entries :: items, fs, h => by
    rw [mergedFromAllFaults?] at h
    obtain ⟨merged, found, h⟩ := Option.bind_eq_some_iff.1 h
    obtain ⟨later, found', same⟩ := Option.bind_eq_some_iff.1 h
    obtain rfl := Option.some.inj same
    have here := (explained_merged entries merged found).append (explained_own entries)
    exact ((explained_mergedFromAll items later found').imp fun _ => .tail).append
      (here.imp fun _ h => .head (.of_entry h))
  | scalar .. :: _, fs, h | sequence .. :: _, fs, h => by
    simp only [mergedFromAllFaults?] at h
    cases h

theorem explained_own : ∀ entries : List (Node × Node),
    Explained (EntryHarbours entries) (ownFaults entries)
  | [] => by
    rw [ownFaults]
    exact .nil
  | (k, v) :: entries => by
    have later := (explained_own entries).imp fun _ => EntryHarbours.tail (k := k) (v := v)
    rw [ownFaults]
    split
    · exact later
    · exact (((explained_key k).imp fun _ => .key).append
        ((explained_faults v).imp fun _ => .value)).append later

theorem explained_key : ∀ n : Node, Explained n.Harbours (keyFaults n)
  | n => by
    rw [keyFaults.eq_def]
    split
    · exact .nil
    · split
      · exact .malformed
      · exact explained_faults n

end

end Node
end PageDirectives.Yaml
