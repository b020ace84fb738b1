import PageDirectives.Proofs.Site.Stages
import PageDirectives.Proofs.Yaml.Faults
import PageDirectives.Proofs.Yaml.Stops
/-!
What a bad header does to a run. A document is taken apart, or it is reported that its header breaks
a rule or is no mapping, or the header strays: it holds a scalar that shows a kind and names nothing
of it, or a place at which reading stops for other than a broken rule. Sources are read up to the
first that is rejected. If that one strays the run breaks down, and else it says what is wrong.
-/
namespace PageDirectives

namespace Source

open Yaml

/-- A document whose header has no value, for a cause that is not a broken rule: reading stops at
it, or it is that of the first of the least deep faults. -/
inductive Strays (text : Text) : YamlError → Prop
  | reading {h : Headed} {e : YamlError} : Headed.ofText? text = some h →
      Text.isAllBlank h.raw = false → Node.ofText? h.raw = .error e → e ≠ .malformed →
        Strays text e
  | value {h : Headed} {root : Node} {f : Fault} : Headed.ofText? text = some h →
      Text.isAllBlank h.raw = false → Node.ofText? h.raw = .ok (some root) →
        Fault.foremost? root.faults = some f → f.cause ≠ .malformed → Strays text f.cause

/-- What a header strays for: reading stops at it, or a part of its tree names nothing of its kind,
which is one of truth, numbers or timestamps. -/
theorem Strays.cause {text : Text} {e : YamlError} (h : Strays text e) :
    ∃ header, Headed.ofText? text = some header ∧
      (Node.ofText? header.raw = .error e ∧ e.StopsReading ∨
        ∃ root part, Node.ofText? header.raw = .ok (some root) ∧ Node.Within part root ∧
          part.Misnames e ∧ part.kind ∈ [Kind.truth, .integer, .float, .timestamp]) := by
  cases h with
  | @reading header e headed _ stops _ =>
    have read := Node.reads_ofText? header.raw
    rw [stops] at read
    exact ⟨_, headed, .inl ⟨stops, read⟩⟩
  | @value header root f headed _ built foremost other =>
    have among : f ∈ root.faults := List.argmin_mem foremost
    obtain ⟨part, within, misnames⟩ := (root.explained_faults f among).resolve_left other
    exact ⟨_, headed, .inr ⟨root, part, built, within, misnames, misnames.kind_mem⟩⟩

end Source

namespace Files

section

variable {files : Files} {first path : Path} {rest : List Path}

end

end Files

namespace Stage

variable {files : Files} {input path : Path} {paths : List Path}

end Stage

end PageDirectives
