import PageDirectives.Text.Basic
import PageDirectives.Text.Toggles
import PageDirectives.Text.CaseTable
/-!
Full case mappings. One character may become several, and a capital sigma at the end of a word
becomes the final sigma.
-/
namespace PageDirectives.Text

/-- The image of a code point under a table of runs, if some run has it. -/
def CaseRun.image? (runs : List CaseRun) (code : Nat) : Option Nat :=
  (runs.find? fun run =>
    run.first ≤ code && code ≤ run.last && (code - run.first) % run.step == 0).map
      fun run => ((code : Int) + run.shift).toNat

/-- The upper case of one character. -/
def upperChar (c : Char) : Text :=
  if c.toNat < 128 then [c.toUpper]
  else
    match upperExpansions.find? (·.1 == c.toNat) with
    | some (_, codes) => codes.map Char.ofNat
    | none => [((CaseRun.image? upperRuns c.toNat).map Char.ofNat).getD c]

/-- The lower case of one character away from the end of a word. -/
def lowerChar (c : Char) : Text :=
  if c.toNat < 128 then [c.toLower]
  else if c == 'İ' then ['i', Char.ofNat 0x307]
  else [((CaseRun.image? lowerRuns c.toNat).map Char.ofNat).getD c]

/-- Whether a character is passed over when the case of its neighbours is judged. -/
def isCaseIgnorable (c : Char) : Bool :=
  if c.toNat < 128 then c ∈ ['\'', '.', ':', '^', Char.ofNat 96]
  else Toggles.has caseIgnorableToggles c.toNat

/-- Whether a character has case and is not passed over. -/
def isCased (c : Char) : Bool :=
  if c.toNat < 128 then c.isAlpha else Toggles.has casedToggles c.toNat

/-- Whether the nearest character that is not passed over has case. -/
def casedNext (text : Text) : Bool :=
  match text.dropWhile isCaseIgnorable with
  | [] => false
  | c :: _ => isCased c

/-- Lower case of the rest of a text, given the characters before it in reverse. -/
def lowerFrom (before : Text) : Text → Text
  | [] => []
  | c :: text =>
    (if c == 'Σ' then [if casedNext before && !casedNext text then 'ς' else 'σ']
     else lowerChar c) ++ lowerFrom (c :: before) text

/-- The lower case of a text. -/
def lower (text : Text) : Text := lowerFrom [] text

/-- The upper case of a text. -/
def upper (text : Text) : Text := text.flatMap upperChar

end PageDirectives.Text
