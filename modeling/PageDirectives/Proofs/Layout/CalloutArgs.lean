import PageDirectives.Layout.Note
import PageDirectives.Proofs.Directive.Opening
import PageDirectives.Proofs.Text.Trimming
/-!
Callouts by their arguments. A plus sign makes a callout that folds and is open, a hyphen one that
is closed, and what follows the sign and blanks behind it names the type; without a sign all of it
does. Nothing at all names no type, and then the block stays as it is. A sign alone names none
either, but it is read as the type of a callout that does not fold, so the rule holds for all other
blocks.
-/
namespace PageDirectives

namespace Text

/-- What follows the first character of a trimmed text has a first character other than a blank. -/
theorem exists_behind_first {text rest : Text} {sign : Char} (same : trim text = sign :: rest)
    (ne : rest ≠ []) :
    ∃ gap c more, rest = gap ++ c :: more ∧ (∀ b ∈ gap, isBlank b = true) ∧ isBlank c = false := by
  have filled : trimStart rest ≠ [] := by
    intro none
    refine not_suffix_trimEnd ne (trimStart_eq_nil_iff.1 none) (trimStart text) ?_
    rw [← trim, same]
    exact List.suffix_cons sign rest
  obtain ⟨gap, blank, cut⟩ := exists_trimStart rest
  obtain ⟨c, more, start⟩ := List.exists_cons_of_ne_nil filled
  have first := List.head?_dropWhile_not isBlank rest
  rw [← trimStart, start] at first
  exact ⟨gap, c, more, cut.trans (congrArg (gap ++ ·) start), blank, first⟩

theorem trimStart_gap_append {gap more : Text} {c : Char} (blank : ∀ b ∈ gap, isBlank b = true)
    (filled : isBlank c = false) : trimStart (gap ++ c :: more) = c :: more := by
  rw [trimStart_blank_append blank, trimStart, List.dropWhile_cons_of_neg (by simp [filled])]

end Text

namespace Layout

open Directive

/-- Arguments that name no type: none at all, or a sign alone. -/
def Nameless (args : Text) : Prop := args = [] ∨ args = ['+'] ∨ args = ['-']

/-- Arguments that name a type, by its first character and the others, and how the callout folds. -/
inductive Naming : Text → Fold → Char → Text → Prop
  | opened {gap : Text} {c : Char} {more : Text} (blank : ∀ b ∈ gap, Text.isBlank b = true)
    (filled : Text.isBlank c = false) : Naming ('+' :: (gap ++ c :: more)) .opened c more
  | closed {gap : Text} {c : Char} {more : Text} (blank : ∀ b ∈ gap, Text.isBlank b = true)
    (filled : Text.isBlank c = false) : Naming ('-' :: (gap ++ c :: more)) .closed c more
  | unfolding {c : Char} {more : Text} (plus : c ≠ '+') (hyphen : c ≠ '-') :
    Naming (c :: more) .unfolding c more

/-- The element that a callout is. -/
def Fold.element : Fold → Text
  | .unfolding => "div"
  | _ => "details"

/-- What the tag of an open callout has behind its attributes. -/
def Fold.openMark : Fold → Text
  | .opened => " open"
  | _ => []

/-- The tag that a callout begins with. -/
def openingTag (fold : Fold) (kind : Text) : Text :=
  '<' :: fold.element ++ " class=\"callout\" data-callout=\"" ++ kind ++ "\"" ++ fold.openMark ++
    ">"

/-- The line with the title of a callout. -/
def titleLine (title : Text) : Text :=
  "<div class=\"callout-title-inner\">".toList ++ title ++ "</div>\n"

/-- The lines with the content of a callout. -/
def contentLines (content : Text) : Text :=
  "<div class=\"callout-content\">".toList ++ content ++ "</div>\n"

/-- A callout of a type begins with its tag, and shows a title and a content. -/
structure IsCallout (fold : Fold) (kind title content out : Text) : Prop where
  whole : out = callout fold kind title content
  tag : openingTag fold kind <+: out
  title : titleLine title <:+: out
  content : contentLines content <:+: out

/-- A block is answered as its arguments ask: as it is if they name no type, and else with a callout
of the type in small letters, with the type as its title, in which the first letter is a capital. -/
structure FollowsArgs (o : Occurrence) : Prop where
  nameless : Nameless (Text.trim o.args) → calloutHandler.run o = .ok (.text o.raw)
  naming : ∀ fold c more, Naming (Text.trim o.args) fold c more →
    ∃ out, calloutHandler.run o = .ok (.text out) ∧
      IsCallout fold (Text.lower (c :: more)) (Text.upper [c] ++ more) (Text.trim o.content) out

variable {args : Text} {fold : Fold} {c : Char} {more : Text}

theorem nameless_or_naming (args : Text) :
    Nameless (Text.trim args) ∨ ∃ fold c more, Naming (Text.trim args) fold c more := by
  cases same : Text.trim args with
  | nil => exact .inl (.inl rfl)
  | cons sign rest =>
    by_cases plus : sign = '+'
    · subst plus
      by_cases ne : rest = []
      · exact .inl (.inr (.inl (by rw [ne])))
      · obtain ⟨gap, c, more, rfl, blank, filled⟩ := Text.exists_behind_first same ne
        exact .inr ⟨_, c, more, .opened blank filled⟩
    by_cases hyphen : sign = '-'
    · subst hyphen
      by_cases ne : rest = []
      · exact .inl (.inr (.inr (by rw [ne])))
      · obtain ⟨gap, c, more, rfl, blank, filled⟩ := Text.exists_behind_first same ne
        exact .inr ⟨_, c, more, .closed blank filled⟩
    · exact .inr ⟨_, sign, rest, .unfolding plus hyphen⟩

theorem calloutHeader?_of_naming (names : Naming (Text.trim args) fold c more) :
    calloutHeader? args = some (fold, c :: more) := by
  generalize same : Text.trim args = trimmed at names
  cases names with
  | @opened gap _ _ blank filled =>
    rw [← Text.trimStart_gap_append blank filled, calloutHeader?, same]
    cases gap <;> rfl
  | @closed gap _ _ blank filled =>
    rw [← Text.trimStart_gap_append blank filled, calloutHeader?, same]
    cases gap <;> rfl
  | unfolding plus hyphen =>
    rw [calloutHeader?, same]
    split
    · next none => exact nomatch none
    · next one => rw [one]
    · next marked => exact absurd (List.cons.inj marked).1 plus
    · next marked => exact absurd (List.cons.inj marked).1 hyphen
    · rfl

theorem calloutTitle_eq (kind title : Text) :
    ∃ before, calloutTitle kind title = before ++ titleLine title := by
  have cut : ("</div>\n<div class=\"callout-title-inner\">" : Text) =
      "</div>\n".toList ++ "<div class=\"callout-title-inner\">" := by decide +kernel
  refine ⟨"<div class=\"callout-title-icon\">".toList ++ Icon.markup kind ++ "</div>\n", ?_⟩
  unfold calloutTitle titleLine
  rw [cut]
  simp only [List.append_assoc]

theorem callout_eq (fold : Fold) (kind title content : Text) :
    ∃ before between behind, callout fold kind title content = openingTag fold kind ++
      (before ++ titleLine title ++ (between ++ contentLines content ++ behind)) := by
  obtain ⟨icon, shown⟩ := calloutTitle_eq kind title
  have summary : (">\n<summary class=\"callout-title\">\n" : Text) =
      ">".toList ++ "\n<summary class=\"callout-title\">\n" := by decide +kernel
  have division : (">\n<div class=\"callout-title\">\n" : Text) =
      ">".toList ++ "\n<div class=\"callout-title\">\n" := by decide +kernel
  unfold callout openingTag contentLines
  cases fold with
  | unfolding =>
    refine ⟨"\n<div class=\"callout-title\">\n".toList ++ icon, "</div>\n", "</div>", ?_⟩
    simp only [Fold.element, Fold.openMark, shown, division, List.append_assoc, List.append_nil]
  | _ =>
    refine ⟨"\n<summary class=\"callout-title\">\n".toList ++ icon, "</summary>\n", "</details>",
      ?_⟩
    simp only [Fold.element, Fold.openMark, shown, summary, List.append_assoc, List.append_nil]

theorem isCallout (fold : Fold) (kind title content : Text) :
    IsCallout fold kind title content (callout fold kind title content) := by
  obtain ⟨before, between, behind, written⟩ := callout_eq fold kind title content
  rw [written]
  refine ⟨written.symm, List.prefix_append _ _, ?_, ?_⟩
  · exact (List.infix_append before _ _).trans (List.suffix_append _ _).isInfix
  · exact (List.infix_append between _ behind).trans
      ((List.suffix_append _ _).trans (List.suffix_append _ _)).isInfix

theorem run_of_naming {o : Occurrence} (names : Naming (Text.trim o.args) fold c more) :
    ∃ out, calloutHandler.run o = .ok (.text out) ∧
      IsCallout fold (Text.lower (c :: more)) (Text.upper [c] ++ more) (Text.trim o.content)
        out := by
  refine ⟨_, ?_, isCallout ..⟩
  simp only [calloutHandler, Handler.ofText, calloutHeader?_of_naming names]
  rfl

theorem run_of_nothing {o : Occurrence} (nothing : Text.trim o.args = []) :
    calloutHandler.run o = .ok (.text o.raw) := by
  simp only [calloutHandler, Handler.ofText, calloutHeader?, nothing]
  rfl

/-- A sign alone is read as the type of a callout that does not fold. -/
theorem run_of_sign {o : Occurrence} {sign : Char} (alone : Text.trim o.args = [sign])
    (shown : sign = '+' ∨ sign = '-') :
    calloutHandler.run o =
      .ok (.text (callout .unfolding [sign] [sign] (Text.trim o.content))) := by
  simp only [calloutHandler, Handler.ofText, calloutHeader?, alone]
  rcases shown with rfl | rfl <;> rfl

/-- A block as it is written begins with a colon, so it is no callout. -/
theorem raw_ne_callout {text : Text} {page : Entries} {s : Located Occurrence}
    (mem : s ∈ scan text "callout" .block page) (fold : Fold) (kind title content : Text) :
    s.found.raw ≠ callout fold kind title content := by
  obtain ⟨line, later, more, -, read⟩ := exists_read_of_mem_scan (by decide) mem
  obtain ⟨args, opened, last, -, -, same⟩ := blockLines_eq_some_iff.1 read
  obtain ⟨rfl, -⟩ := opening?_eq_some_iff.1 opened
  have colon : s.found.raw.head? = some ':' := by
    rw [same, Text.ofLines_cons]
    rfl
  have angle : (callout fold kind title content).head? = some '<' := by
    obtain ⟨before, between, behind, written⟩ := callout_eq fold kind title content
    rw [written]
    rfl
  intro equal
  rw [equal, angle] at colon
  exact absurd colon (by decide)

theorem not_nameless_of_naming {args : Text} (names : Naming args fold c more) :
    ¬ Nameless args := by
  rintro (rfl | same | same)
  · nomatch names
  all_goals
    cases names with
    | opened | closed => simp at same
    | unfolding plus hyphen => simp_all

/-- Every block of a callout names a type in its arguments or none, and is answered as they ask
exactly if they are not a sign alone. A sign alone is taken for a type. -/
theorem followsArgs_iff {text : Text} {page : Entries} {s : Located Occurrence}
    (mem : s ∈ scan text "callout" .block page) :
    let o := s.found
    let args := Text.trim o.args
    (FollowsArgs o ↔ args ≠ ['+'] ∧ args ≠ ['-']) ∧
      (Nameless args ∨ ∃ fold c more, Naming args fold c more) ∧
      (args = [] → calloutHandler.run o = .ok (.text o.raw)) ∧
      (∀ fold c more, Naming args fold c more → ¬ Nameless args ∧
        ∃ out, calloutHandler.run o = .ok (.text out) ∧ out ≠ o.raw ∧
          IsCallout fold (Text.lower (c :: more)) (Text.upper [c] ++ more) (Text.trim o.content)
            out) ∧
      ∀ sign, args = [sign] → sign = '+' ∨ sign = '-' →
        calloutHandler.run o =
          .ok (.text (callout .unfolding [sign] [sign] (Text.trim o.content))) := by
  intro o args
  have misread {sign : Char} (alone : args = [sign]) (shown : sign = '+' ∨ sign = '-') :
      ¬ FollowsArgs o := by
    intro follows
    have none : Nameless args := by
      rw [alone]
      rcases shown with rfl | rfl
      · exact .inr (.inl rfl)
      · exact .inr (.inr rfl)
    have same := (follows.nameless none).symm.trans (run_of_sign alone shown)
    exact raw_ne_callout mem _ _ _ _ (Value.text.inj (Except.ok.inj same))
  refine ⟨⟨fun follows => ⟨fun plus => misread plus (.inl rfl) follows,
    fun hyphen => misread hyphen (.inr rfl) follows⟩, fun ⟨plus, hyphen⟩ => ⟨?_, ?_⟩⟩,
    nameless_or_naming o.args, run_of_nothing, fun fold c more names => ?_,
    fun sign alone shown => run_of_sign alone shown⟩
  · rintro (nothing | alone | alone)
    · exact run_of_nothing nothing
    · exact absurd alone plus
    · exact absurd alone hyphen
  · exact fun fold c more names => run_of_naming names
  · obtain ⟨out, ran, shows⟩ := run_of_naming names
    refine ⟨not_nameless_of_naming names, out, ran, ?_, shows⟩
    rw [shows.whole]
    exact (raw_ne_callout mem _ _ _ _).symm

/-- A callout that folds and is closed: blanks follow the sign, and the type begins with a letter
whose capital is two letters. -/
theorem followsArgs_iff_of_closed :
    let text : Text := "::callout - \tßTIP\nBody\n::end"
    ∃ s ∈ scan text "callout" .block [], Naming (Text.trim s.found.args) .closed 'ß' "TIP" ∧
      FollowsArgs s.found ∧ ∃ out, calloutHandler.run s.found = .ok (.text out) ∧
        openingTag .closed "ßtip" <+: out ∧ titleLine "SSTIP" <:+: out ∧
        contentLines "Body" <:+: out := by
  intro text
  have found : (scan text "callout" .block []).map (fun s => (s.found.args, s.found.content)) =
      [("- \tßTIP".toList, "Body".toList)] := by decide +kernel
  obtain ⟨s, scanned, same⟩ := List.map_eq_singleton_iff.1 found
  obtain ⟨args, content⟩ := Prod.mk.inj same
  have mem : s ∈ scan text "callout" .block [] := scanned ▸ List.mem_singleton_self s
  obtain ⟨follows, -, -, answered, -⟩ := followsArgs_iff mem
  have trimmed : Text.trim s.found.args = '-' :: ([' ', '\t'] ++ 'ß' :: "TIP") := by
    rw [args]
    decide +kernel
  have names : Naming (Text.trim s.found.args) .closed 'ß' "TIP" := by
    rw [trimmed]
    exact .closed (List.all_eq_true.1 (by decide)) (by decide)
  obtain ⟨-, out, ran, -, shows⟩ := answered _ _ _ names
  have kind : Text.lower ('ß' :: "TIP") = "ßtip" := by decide +kernel
  have title : Text.upper ['ß'] ++ "TIP".toList = "SSTIP" := by decide +kernel
  have body : Text.trim s.found.content = "Body" := by
    rw [content]
    decide +kernel
  rw [kind, title, body] at shows
  refine ⟨s, mem, names, follows.2 ?_, out, ran, shows.tag, shows.title, shows.content⟩
  rw [trimmed]
  simp

/-- A sign without a type, for which the block should stay as it is, is made a callout whose type is
the sign. -/
theorem not_followsArgs :
    let text : Text := "::callout +\nBody\n::end"
    ∃ s ∈ scan text "callout" .block [], s.found.raw = text ∧
      Nameless (Text.trim s.found.args) ∧
      calloutHandler.run s.found = .ok (.text (callout .unfolding ['+'] ['+'] "Body")) ∧
      calloutHandler.run s.found ≠ .ok (.text text) ∧ ¬ FollowsArgs s.found := by
  intro text
  have found : (scan text "callout" .block []).map
      (fun s => (s.found.args, s.found.content, s.found.raw)) =
      [(['+'], "Body".toList, text)] := by decide +kernel
  obtain ⟨s, scanned, same⟩ := List.map_eq_singleton_iff.1 found
  obtain ⟨args, content, raw⟩ : s.found.args = ['+'] ∧ s.found.content = "Body" ∧
    s.found.raw = text := by simpa using same
  have mem : s ∈ scan text "callout" .block [] := scanned ▸ List.mem_singleton_self s
  have alone : Text.trim s.found.args = ['+'] := by
    rw [args]
    rfl
  have body : Text.trim s.found.content = "Body" := by
    rw [content]
    decide +kernel
  have ran := run_of_sign alone (.inl rfl)
  have none : Nameless (Text.trim s.found.args) := .inr (.inl alone)
  have differs : calloutHandler.run s.found ≠ .ok (.text s.found.raw) := by
    rw [ran]
    exact fun same => raw_ne_callout mem _ _ _ _ (Value.text.inj (Except.ok.inj same)).symm
  rw [body] at ran
  exact ⟨s, mem, raw, none, ran, raw ▸ differs, fun follows => differs (follows.nameless none)⟩

end Layout
end PageDirectives
