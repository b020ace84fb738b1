import PageDirectives.Text.Basic
/-!
Leftmost search. A recogniser reads one form at the front of a text; a search tries it at every
position from the left and goes on behind each form it finds, so what is found lies in document
order and never overlaps. Splicing puts other texts in the place of what was found.
-/
namespace PageDirectives

/-- Reads a form at the front of a text: what it says and how many characters it takes. The flag
tells whether a line begins at the front. A form takes at least one character. -/
abbrev Recogniser (α : Type) := (lineStart : Bool) → (text : Text) → Option (α × Nat)

/-- A form found in a text, with the offsets where it starts and stops. -/
structure Located (α : Type) where
  start : Nat
  stop : Nat
  found : α
  deriving Repr, DecidableEq

namespace Search

/-- Whether a line begins behind a taken piece. -/
def lineStartAfter (taken : Text) : Bool := taken.getLast? == some '\n'

/-- All forms in a text that begins at an offset, from the left. -/
def allFrom {α : Type} (r : Recogniser α) (offset : Nat) (lineStart : Bool) :
    Text → List (Located α)
  | [] => []
  | c :: text =>
    match r lineStart (c :: text) with
    | none => allFrom r (offset + 1) (c == '\n') text
    | some (found, size) =>
      ⟨offset, offset + 1 + (size - 1), found⟩ ::
        allFrom r (offset + 1 + (size - 1)) (lineStartAfter (c :: text.take (size - 1)))
          (text.drop (size - 1))
termination_by text => text.length

/-- All forms in a text, from the left. -/
def all {α : Type} (r : Recogniser α) (text : Text) : List (Located α) := allFrom r 0 true text

/-- The first form at or behind the front of a text that begins at an offset. -/
def firstFrom {α : Type} (r : Recogniser α) (offset : Nat) (lineStart : Bool) :
    Text → Option (Located α)
  | [] => none
  | c :: text =>
    match r lineStart (c :: text) with
    | none => firstFrom r (offset + 1) (c == '\n') text
    | some (found, size) => some ⟨offset, offset + 1 + (size - 1), found⟩

/-- A text with every form in it exchanged for a text that depends on what it says. -/
def exchangeFrom {α : Type} (r : Recogniser α) (image : α → Text) (lineStart : Bool) :
    Text → Text
  | [] => []
  | c :: text =>
    match r lineStart (c :: text) with
    | none => c :: exchangeFrom r image (c == '\n') text
    | some (found, size) =>
      image found ++ exchangeFrom r image (lineStartAfter (c :: text.take (size - 1)))
        (text.drop (size - 1))
termination_by text => text.length

/-- A text with every form in it exchanged, from the left. -/
def exchange {α : Type} (r : Recogniser α) (image : α → Text) (text : Text) : Text :=
  exchangeFrom r image true text

end Search

/-- The part of a text between two offsets; empty unless the first is the smaller one. -/
def Text.slice (text : Text) (start stop : Nat) : Text := (text.drop start).take (stop - start)

namespace Splice

/-- The offset that a whole number names in a text: below zero it counts from the end. -/
def offset (text : Text) (n : Int) : Nat :=
  if n < 0 then (text.length + n).toNat else n.toNat

/-- The rest of a text behind a cursor with its spans exchanged. -/
def behind (text : Text) (cursor : Nat) : List ((Nat × Nat) × Text) → Text
  | [] => text.drop cursor
  | ((start, stop), other) :: rest =>
    Text.slice text cursor start ++ other ++ behind text stop rest

/-- Spans and replacements that do not pair up. -/
structure Mismatch where
  spans : Nat
  replacements : Nat
  deriving Repr, DecidableEq

/-- The wording of a mismatch. -/
def Mismatch.message (m : Mismatch) : Text :=
  (toString m.spans ++ " spans but " ++ toString m.replacements ++ " replacements").toList

/-- A text with each span exchanged for its replacement, in the order given. -/
def apply (text : Text) (spans : List (Nat × Nat)) (replacements : List Text) :
    Except Mismatch Text :=
  if spans.length = replacements.length then .ok (behind text 0 (spans.zip replacements))
  else .error ⟨spans.length, replacements.length⟩

end Splice
end PageDirectives
