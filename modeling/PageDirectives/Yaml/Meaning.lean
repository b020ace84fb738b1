import PageDirectives.Yaml.Node
import PageDirectives.Yaml.Scalar
/-!
The values of nodes. Merged mappings come before the entries of the mapping that names them. Of
several faults in a document the one that lies least deep is reported, of equally deep ones the
first.
-/
namespace PageDirectives.Yaml

/-- Why a node has no value, and how deep below it the reason lies. -/
structure Fault where
  depth : Nat
  cause : YamlError
  deriving Repr, DecidableEq

namespace Fault

/-- A fault of a node itself. -/
def here (cause : YamlError) : Fault := ⟨0, cause⟩

/-- A fault seen from one level above. -/
def deeper (f : Fault) : Fault := { f with depth := f.depth + 1 }

/-- The fault of two that is reported. -/
def first (f g : Fault) : Fault := if g.depth < f.depth then g else f

end Fault

/-- A value or the fault that keeps a node from having one. -/
abbrev Found (α : Type) := Except Fault α

namespace Found

/-- Two results as one. -/
def both {α β : Type} : Found α → Found β → Found (α × β)
  | .ok a, .ok b => .ok (a, b)
  | .error f, .error g => .error (f.first g)
  | .error f, .ok _ => .error f
  | .ok _, .error g => .error g

/-- Several results as one. -/
def all {α : Type} : List (Found α) → Found (List α)
  | [] => .ok []
  | r :: rest => (both r (all rest)).map fun (a, found) => a :: found

/-- A result seen from one level above. -/
def below {α : Type} (r : Found α) : Found α := r.mapError Fault.deeper

end Found

namespace Kind

/-- Whether the nodes of a kind are filled only once those beside them have values. -/
def isCollection : Kind → Bool
  | sequence | mapping | set | orderedMap | pairs => true
  | _ => false

/-- The fault of a node whose shape does not suit its kind. -/
def misfit (kind : Kind) : Fault := ⟨if kind.isCollection then 1 else 0, .malformed⟩

end Kind

namespace Node

mutual

/-- The text of a scalar, or of what a mapping gives as its default. -/
def text? : Node → Option Text
  | scalar _ text => some text
  | sequence .. => none
  | mapping _ entries => defaultText? entries

/-- The text of the first default among entries. -/
def defaultText? : List (Node × Node) → Option Text
  | [] => none
  | (k, v) :: entries => if k.kind = .default then text? v else defaultText? entries

end

/-- The value of a mapping of a kind that scalars have, given the text of its default. -/
def ofDefault (kind : Kind) (text : Option Text) : Found Value :=
  match text with
  | none => .error kind.misfit
  | some text =>
    if kind = .timestamp then .error (.here .timestampOfMap)
    else (Scalar.value kind text).mapError .here

mutual

/-- The value of a node. -/
def value : Node → Found Value
  | scalar kind text =>
    if kind.isCollection then .error kind.misfit else (Scalar.value kind text).mapError .here
  | sequence kind items =>
    match kind with
    | .sequence => (Found.all (values items)).below.map .list
    | .orderedMap | .pairs => (Found.all (pairs items)).below.map .list
    | kind => .error kind.misfit
  | mapping kind entries =>
    match kind with
    | .mapping => (fields entries).below.map fun found => .map (Entries.ofList found)
    | .set =>
      (fields entries).below.map fun found => .set ((Entries.ofList found).map (·.1))
    | .sequence | .orderedMap | .pairs => .error kind.misfit
    | kind => ofDefault kind (defaultText? entries)

/-- The values of nodes. -/
def values : List Node → List (Found Value)
  | [] => []
  | n :: rest => value n :: values rest

/-- The pairs that mappings with one entry each stand for. -/
def pairs : List Node → List (Found Value)
  | [] => []
  | mapping _ [(k, v)] :: rest =>
    (Found.both (value k) (value v)).map (fun (a, b) => .pair a b) :: pairs rest
  | _ :: rest => .error (.here .malformed) :: pairs rest

/-- The entries of a mapping as values, merged ones first. -/
def fields : List (Node × Node) → Found (List (Value × Value))
  | entries => do
    Found.all ((← merged entries) ++ own entries)

/-- The entries that a mapping merges, in the order of the merges. -/
def merged : List (Node × Node) → Found (List (Found (Value × Value)))
  | [] => .ok []
  | (k, v) :: entries => do
    let first ← if k.kind = .merge then mergedFrom v else .ok []
    .ok (first ++ (← merged entries))

/-- The entries that a node gives where it is merged. -/
def mergedFrom : Node → Found (List (Found (Value × Value)))
  | mapping _ entries => do .ok ((← merged entries) ++ own entries)
  | sequence _ items => mergedFromAll items
  | scalar .. => .error (.here .malformed)

/-- The entries that several mappings give where they are merged, those of the last one first. -/
def mergedFromAll : List Node → Found (List (Found (Value × Value)))
  | [] => .ok []
  | mapping _ entries :: items => do
    let first ← merged entries
    .ok ((← mergedFromAll items) ++ (first ++ own entries))
  | _ :: _ => .error (.here .malformed)

/-- The entries of a mapping that are no merges. A key that names a default is a text like
others. -/
def own : List (Node × Node) → List (Found (Value × Value))
  | [] => []
  | (k, v) :: entries =>
    if k.kind = .merge then own entries else Found.both (key k) (value v) :: own entries

/-- The value of a node that is a key. -/
def key : Node → Found Value
  | scalar .default text => .ok (.text text)
  | n => if n.kind.isCollection then .error (.here .malformed) else value n

end

end Node

/-- The value of the document that a text holds; without a document, null. -/
def read (text : Text) : Except YamlError Value := do
  match ← Node.ofText? text with
  | none => .ok .null
  | some root => (root.value).mapError (·.cause)

end PageDirectives.Yaml
