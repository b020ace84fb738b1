import PageDirectives.Yaml.Node
/-!
What reading stops at. Nearly all that keeps a text from having a tree of nodes is a broken rule.
There are two exceptions: an escape that gives a character a number which none has, and a version
with more digits than whole numbers are read with. What is read before such a place stays as it is,
and building stops there only if it gets that far.
-/
namespace PageDirectives.Yaml

/-- What reading stops at: a broken rule, an escape beyond all characters, and a version that is
too long for a number. -/
inductive YamlError.StopsReading : YamlError → Prop
  | malformed : StopsReading .malformed
  | character {code : Nat} (beyond : 0x110000 ≤ code) : StopsReading (.noCharacter code)
  | version {digits : Nat} (long : digitLimit < digits) :
      StopsReading (.number (.tooLongToRead digits))

/-- A result with a property, or something that reading stops at. -/
def Gives {α : Type} (P : α → Prop) : Except YamlError α → Prop
  | .ok a => P a
  | .error e => e.StopsReading

/-- A result, or something that reading stops at. -/
abbrev Reads {α : Type} (x : Except YamlError α) : Prop := Gives (fun _ => True) x

namespace Gives

variable {α β : Type} {P : α → Prop} {Q : β → Prop} {x : Except YamlError α}
  {f : α → Except YamlError β}

theorem ok {a : α} (h : P a) : Gives P (.ok a) := h

theorem malformed : Gives P (.error .malformed) := YamlError.StopsReading.malformed

theorem bind (hx : Gives P x) (hf : ∀ a, P a → Gives Q (f a)) : Gives Q (x >>= f) := by
  cases x with
  | ok a => exact hf a hx
  | error e => exact hx

theorem map {g : α → β} (hx : Gives P x) (hg : ∀ a, P a → Q (g a)) : Gives Q (x.map g) := by
  cases x with
  | ok a => exact hg a hx
  | error e => exact hx

theorem ite {p : Prop} [Decidable p] {y : Except YamlError α} (hx : Gives P x) (hy : Gives P y) :
    Gives P (if p then x else y) := by
  split
  · exact hx
  · exact hy

/-- A result on a condition that is a rule. -/
theorem of_rule {p : Prop} [Decidable p] {a : α} :
    Reads (if p then .ok a else .error .malformed) :=
  .ite (.ok trivial) .malformed

end Gives

theorem reads_handleWord (text : Text) : Reads (handleWord text) := by
  rw [handleWord]
  split
  · exact .malformed
  · exact .ok trivial

theorem reads_anchorName (text : Text) : Reads (anchorName text) :=
  (reads_handleWord text).bind fun _ _ => .of_rule

namespace Quoted

theorem reads_characterOf (code : Nat) : Reads (characterOf code) := by
  rw [characterOf]
  split
  · exact .ok trivial
  · next beyond => exact YamlError.StopsReading.character (Nat.not_lt.1 beyond)

theorem reads_emptyLines (fuel : Nat) (text : Text) : Reads (emptyLines fuel text) := by
  induction fuel generalizing text with
  | zero => exact .malformed
  | succ fuel ih =>
    rw [emptyLines]
    split
    · exact .malformed
    · dsimp only
      split
      · exact .ok trivial
      · exact (ih _).bind fun _ _ => .ok trivial

theorem reads_escape (text : Text) : Reads (escape text) := by
  rw [escape.eq_def]
  split
  · exact reads_emptyLines _ _
  · exact .malformed
  · split
    · exact .ok trivial
    · exact .malformed
    · split
      · exact .malformed
      · exact (reads_characterOf _).map fun _ _ => trivial

theorem reads_gap (text : Text) : Reads (gap text) := by
  rw [gap]
  dsimp only
  split
  · exact .ok trivial
  · exact (reads_emptyLines _ _).bind fun _ _ => .ok trivial

theorem reads_body (quote : Quote) (fuel : Nat) (text : Text) : Reads (body quote fuel text) := by
  induction fuel generalizing text with
  | zero => exact .malformed
  | succ fuel ih =>
    cases text with
    | nil => exact .malformed
    | cons c text =>
      simp only [body]
      split
      · exact (reads_gap _).bind fun _ _ => (ih _).bind fun _ _ => .ok trivial
      · split
        · exact (ih _).bind fun _ _ => .ok trivial
        · exact .ok trivial
        · exact .ok trivial
        · exact (reads_escape _).bind fun _ _ => (ih _).bind fun _ _ => .ok trivial
        · exact (ih _).bind fun _ _ => .ok trivial

theorem reads_scan (quote : Quote) (c : Cursor) : Reads (scan quote c) :=
  (reads_body quote _ _).bind fun _ _ => .ok trivial

end Quoted

namespace WrittenTag

theorem reads_escapedBytes (fuel : Nat) (text : Text) : Reads (escapedBytes fuel text) := by
  fun_induction escapedBytes fuel text with
  | case1 => exact .malformed
  | case2 _ _ _ _ _ ih => exact ih.bind fun _ _ => .ok trivial
  | case3 => exact .ok trivial

theorem reads_characters (fuel : Nat) (text : Text) : Reads (characters fuel text) := by
  induction fuel generalizing text with
  | zero => exact .ok trivial
  | succ fuel ih =>
    cases text with
    | nil => exact .ok trivial
    | cons c text =>
      rw [characters]
      split
      · refine (reads_escapedBytes _ _).bind fun (bytes, rest) _ => ?_
        dsimp only
        split
        · exact .malformed
        · exact (ih rest).bind fun _ _ => .ok trivial
      · split
        · exact (ih text).bind fun _ _ => .ok trivial
        · exact .ok trivial

theorem reads_uri (text : Text) : Reads (uri text) := by
  refine (reads_characters _ text).bind fun found _ => ?_
  split
  · exact .malformed
  · exact .ok trivial

theorem reads_scanHandle (text : Text) : Reads (scanHandle text) := by
  rw [scanHandle.eq_def]
  split
  · exact .ok trivial
  · dsimp only
    split
    · exact .ok trivial
    · exact .malformed
  · exact .malformed

theorem reads_scan (text : Text) : Reads (scan text) := by
  rw [scan]
  split
  · refine (reads_uri _).bind fun found _ => ?_
    split
    · exact .of_rule
    · exact .malformed
  · split
    · exact .of_rule
    · dsimp only
      split
      · exact (reads_scanHandle text).bind fun _ _ => (reads_uri _).bind fun _ _ => .of_rule
      · exact (reads_uri _).bind fun _ _ => .of_rule

end WrittenTag

namespace Instruction

theorem reads_number (text : Text) : Reads (number text) := by
  rw [number]
  split
  · exact .malformed
  · next digits _ =>
    rw [Integer.ofDigits]
    split
    · exact .ok trivial
    · next long => exact YamlError.StopsReading.version (Nat.not_le.1 long)

theorem reads_scanVersion (text : Text) : Reads (scanVersion text) := by
  refine (reads_number _).bind fun found _ => ?_
  split
  · exact (reads_number _).bind fun _ _ => .of_rule
  · exact .malformed

theorem reads_scanMeaning (text : Text) : Reads (scanMeaning text) := by
  refine (WrittenTag.reads_scanHandle _).bind fun found _ => ?_
  split
  · exact (WrittenTag.reads_uri _).bind fun _ _ => .of_rule
  · exact .malformed

theorem reads_scan (text : Text) : Reads (scan text) := by
  refine (reads_handleWord _).bind fun (name, rest) _ => ?_
  dsimp only
  split
  · exact .malformed
  · split
    · exact reads_scanVersion rest
    · split
      · exact reads_scanMeaning rest
      · exact .ok trivial

end Instruction

namespace Block

theorem reads_depth (c : Char) : Reads (depth c) := by
  rw [depth]
  split
  · exact .malformed
  · exact .ok trivial

theorem reads_endOfLine (c : Cursor) : Reads (endOfLine c) := by
  rw [endOfLine]
  split
  · exact .ok trivial
  · exact .ok trivial
  · exact .malformed

theorem reads_opening (text : Text) : Reads (opening text) := by
  rw [opening.eq_def]
  split
  · exact .ok trivial
  · split
    · split
      · split
        · exact (reads_depth _).map fun _ _ => trivial
        · exact .ok trivial
      · exact .ok trivial
    · split
      · refine (reads_depth _).bind fun n _ => ?_
        split
        · split <;> exact .ok trivial
        · exact .ok trivial
      · exact .ok trivial

theorem reads_scan (folding : Bool) (indent : Int) (c : Cursor) :
    Reads (scan folding indent c) := by
  refine (reads_opening _).bind fun (how, rest) _ => ?_
  dsimp only
  split
  · exact .malformed
  · exact (reads_endOfLine _).bind fun _ _ => .ok trivial

end Block

/-- A token that is not a place where reading stopped. -/
def Token.IsWhole : Token → Prop
  | broken _ => False
  | _ => True

/-- A reading that has not stopped. -/
def Reading.Unbroken (r : Reading) : Prop := ∀ t ∈ r.tokens, t.IsWhole

namespace Reading

variable {r : Reading} {t : Token}

section Unbroken

variable (h : r.Unbroken)
include h

theorem Unbroken.emit (whole : t.IsWhole) : (r.emit t).Unbroken :=
  List.forall_mem_cons.2 ⟨whole, h⟩

theorem Unbroken.emitAt (position : Nat) (whole : t.IsWhole) : (r.emitAt position t).Unbroken := by
  refine List.forall_mem_append.2 ⟨?_, List.forall_mem_cons.2 ⟨whole, ?_⟩⟩
  · exact fun u mem => h u (List.mem_of_mem_take mem)
  · exact fun u mem => h u (List.mem_of_mem_drop mem)

theorem Unbroken.take (count : Nat) (whole : t.IsWhole) : (r.take count t).Unbroken :=
  Unbroken.emit (r := r.forward count) h whole

theorem Unbroken.openBlock (column position : Nat) (whole : t.IsWhole) :
    (r.openBlock column position t).Unbroken := by
  rw [Reading.openBlock]
  split
  · exact h.emitAt position whole
  · exact h

omit h in
theorem unbroken_closeDeeper (column : Int) (outer : List Int) {r : Reading} (h : r.Unbroken) :
    (closeDeeper column outer r).Unbroken := by
  induction outer generalizing r with
  | nil => exact h
  | cons before outer ih =>
    rw [closeDeeper]
    split
    · exact ih (h.emit trivial)
    · exact h

theorem Unbroken.unwind (column : Int) : (r.unwind column).Unbroken := by
  rw [Reading.unwind]
  split
  · exact unbroken_closeDeeper column r.outer h
  · exact h

omit h in
theorem unbroken_toNextToken (fuel : Nat) {r : Reading} (h : r.Unbroken) :
    (r.toNextToken fuel).Unbroken := by
  induction fuel generalizing r with
  | zero => exact h
  | succ fuel ih =>
    rw [toNextToken]
    split
    · exact h
    · exact ih h

theorem Unbroken.dropKeyPlace : Gives Unbroken r.dropKeyPlace := by
  rw [Reading.dropKeyPlace]
  split
  · split
    · exact .malformed
    · exact .ok h
  · exact .ok h

theorem Unbroken.saveKeyPlace : Gives Unbroken r.saveKeyPlace := by
  rw [Reading.saveKeyPlace]
  split
  · exact h.dropKeyPlace.bind fun _ whole => .ok whole
  · exact .ok h

theorem Unbroken.dropStaleKeyPlaces : Gives Unbroken r.dropStaleKeyPlaces := by
  rw [Reading.dropStaleKeyPlaces]
  dsimp only
  split
  · exact .malformed
  · exact .ok h

theorem Unbroken.closeAll : Gives Unbroken r.closeAll :=
  (h.unwind (-1)).dropKeyPlace.bind fun _ whole => .ok whole

theorem Unbroken.readEnd : Gives Unbroken r.readEnd :=
  h.closeAll.bind fun _ whole => .ok (whole.emit trivial)

theorem Unbroken.readInstruction : Gives Unbroken r.readInstruction :=
  h.closeAll.bind fun _ whole => (Instruction.reads_scan _).bind fun _ _ =>
    (Block.reads_endOfLine _).bind fun _ _ => .ok (whole.emit trivial)

theorem Unbroken.readSeparator (whole : t.IsWhole) : Gives Unbroken (r.readSeparator t) :=
  h.closeAll.bind fun _ h => .ok (h.take 3 whole)

theorem Unbroken.readOpening (whole : t.IsWhole) : Gives Unbroken (r.readOpening t) :=
  h.saveKeyPlace.bind fun r h =>
    .ok (Unbroken.take (r := { r with brackets := r.brackets + 1 }.allowKey true) h 1 whole)

theorem Unbroken.readClosing (whole : t.IsWhole) : Gives Unbroken (r.readClosing t) := by
  refine h.dropKeyPlace.bind fun r h => ?_
  split
  · exact .malformed
  · exact .ok (Unbroken.take (r := { r with brackets := r.brackets - 1 }.allowKey false) h 1 whole)

theorem Unbroken.readComma : Gives Unbroken r.readComma :=
  (Unbroken.dropKeyPlace (r := r.allowKey true) h).bind fun _ h => .ok (h.take 1 trivial)

theorem Unbroken.openAt (column position : Nat) (whole : t.IsWhole) :
    (if r.brackets = 0 then r.openBlock column position t else r).Unbroken := by
  split
  · exact h.openBlock column position whole
  · exact h

/-- Where a token may begin a collection, its place as a key is given up. -/
theorem Unbroken.allowDropTake (allowed : Bool) (whole : t.IsWhole) :
    Gives Unbroken (do .ok ((← (r.allowKey allowed).dropKeyPlace).take 1 t)) :=
  (Unbroken.dropKeyPlace (r := r.allowKey allowed) h).bind fun _ h => .ok (h.take 1 whole)

theorem Unbroken.readItem : Gives Unbroken r.readItem := by
  rw [Reading.readItem]
  dsimp only
  split
  · exact .malformed
  · exact (h.openAt (t := .blockSequence) _ _ trivial).allowDropTake true trivial

theorem Unbroken.readKey : Gives Unbroken r.readKey := by
  rw [Reading.readKey]
  dsimp only
  split
  · exact .malformed
  · exact (h.openAt (t := .blockMapping) _ _ trivial).allowDropTake _ trivial

theorem Unbroken.readValue : Gives Unbroken r.readValue := by
  rw [Reading.readValue]
  split
  · next place _ =>
    have key : (r.withoutKeyPlace.emitAt place.position .key).Unbroken :=
      Unbroken.emitAt (r := r.withoutKeyPlace) h place.position trivial
    exact .ok (Unbroken.take (r := Reading.allowKey false _)
      (key.openAt (t := .blockMapping) place.cursor.column place.position trivial) 1 trivial)
  · dsimp only
    split
    · exact .malformed
    · exact (h.openAt (t := .blockMapping) _ _ trivial).allowDropTake _ trivial

theorem Unbroken.readMark {scan : Text → Except YamlError (Token × Text)}
    (reads : ∀ text, Gives (fun found => found.1.IsWhole) (scan text)) :
    Gives Unbroken (r.readMark scan) :=
  h.saveKeyPlace.bind fun r h => (reads r.cursor.rest).bind fun _ whole => .ok (h.emit whole)

theorem Unbroken.readName {mark : Text → Token} (whole : ∀ name, (mark name).IsWhole) :
    Gives Unbroken (r.readName mark) :=
  h.readMark fun _ => (reads_anchorName _).map fun _ _ => whole _

theorem Unbroken.readTag : Gives Unbroken r.readTag :=
  h.readMark fun _ => (WrittenTag.reads_scan _).map fun _ _ => trivial

theorem Unbroken.readBlock (folding : Bool) : Gives Unbroken (r.readBlock folding) :=
  (Unbroken.dropKeyPlace (r := r.allowKey true) h).bind fun _ h =>
    (Block.reads_scan folding _ _).bind fun _ _ => .ok (h.emit trivial)

theorem Unbroken.readQuoted (quote : Quoted.Quote) : Gives Unbroken (r.readQuoted quote) :=
  h.saveKeyPlace.bind fun _ h => (Quoted.reads_scan quote _).bind fun _ _ => .ok (h.emit trivial)

theorem Unbroken.readPlain : Gives Unbroken r.readPlain :=
  h.saveKeyPlace.bind fun _ h => .ok (h.emit trivial)

theorem Unbroken.readToken : Gives Unbroken r.readToken := by
  rw [Reading.readToken]
  split
  · exact h.readEnd
  · next c rest _ =>
    have separator : (if c == '-' then Token.documentStart else .documentEnd).IsWhole := by
      split <;> trivial
    exact .ite h.readInstruction <| .ite (h.readSeparator separator) <|
      .ite (h.readOpening trivial) <| .ite (h.readOpening trivial) <|
      .ite (h.readClosing trivial) <| .ite (h.readClosing trivial) <|
      .ite h.readComma <| .ite h.readItem <| .ite h.readKey <| .ite h.readValue <|
      .ite (h.readName fun _ => trivial) <| .ite (h.readName fun _ => trivial) <|
      .ite h.readTag <| .ite (h.readBlock false) <| .ite (h.readBlock true) <|
      .ite (h.readQuoted .single) <| .ite (h.readQuoted .double) <| .ite h.readPlain .malformed

/-- Reading one more token stops rightly or not at all. -/
theorem Unbroken.next : Gives Unbroken r.next :=
  (unbroken_toNextToken _ h).dropStaleKeyPlaces.bind fun _ h => (h.unwind _).readToken

end Unbroken

/-- A reading goes on to its end or breaks off at something that reading stops at. -/
theorem stops_run (fuel : Nat) {r : Reading} (h : r.Unbroken) :
    ∀ e, Token.broken e ∈ run fuel r → e.StopsReading := by
  have stop {e : YamlError} (stops : e.StopsReading) {r : Reading} (h : r.Unbroken) :
      ∀ e', Token.broken e' ∈ (Token.broken e :: r.tokens).reverse → e'.StopsReading := by
    intro e' mem
    rcases List.mem_cons.1 (List.mem_reverse.1 mem) with same | mem
    · exact Token.broken.inj same ▸ stops
    · exact (h _ mem).elim
  induction fuel generalizing r with
  | zero => exact stop .malformed h
  | succ fuel ih =>
    rw [run]
    have next := h.next
    cases read : r.next with
    | error e =>
      rw [read] at next
      exact stop next h
    | ok later =>
      rw [read] at next
      dsimp only
      split
      · exact fun e mem => (next _ (List.mem_reverse.1 mem)).elim
      · exact ih next

end Reading

/-- A text of YAML stops at nothing but what reading stops at. -/
theorem stops_tokens (text : Text) {e : YamlError} (mem : Token.broken e ∈ tokens text) :
    e.StopsReading := by
  rw [tokens] at mem
  split at mem
  · exact Reading.stops_run _ (fun _ mem => absurd mem List.not_mem_nil) e mem
  · obtain rfl := Token.broken.inj (List.mem_singleton.1 mem)
    exact .malformed

/-- A building whose tokens end with nothing but what reading stops at. -/
def Building.Known (b : Building) : Prop := ∀ e, Token.broken e ∈ b.tokens → e.StopsReading

namespace Builder

/-- A step of building that stops only where reading does, or at a broken rule. -/
def Obeys {α : Type} (m : Builder α) : Prop :=
  ∀ b : Building, b.Known → Gives (fun result => result.2.Known) (m.run b)

namespace Obeys

variable {α β : Type} {m : Builder α} {f : α → Builder β}

theorem pure (a : α) : Obeys (pure a : Builder α) := fun _ known => known

theorem bind (hm : Obeys m) (hf : ∀ a, Obeys (f a)) : Obeys (m >>= f) :=
  fun b known => (hm b known).bind fun (a, b') known' => hf a b' known'

theorem malformed : Obeys (malformed : Builder α) := fun _ _ => Gives.malformed

theorem ite {p : Prop} [Decidable p] {m' : Builder α} (h : Obeys m) (h' : Obeys m') :
    Obeys (if p then m else m') := by
  split
  · exact h
  · exact h'

theorem get : Obeys (get : Builder Building) := fun _ known => known

theorem modify {g : Building → Building} (same : ∀ b, (g b).tokens = b.tokens) :
    Obeys (modify g : Builder Unit) := by
  intro b known e mem
  exact known e (same b ▸ mem)

theorem peek : Obeys peek := by
  rintro ⟨tokens, handles, anchors⟩ known
  cases tokens with
  | nil => exact known
  | cons t later =>
    cases t with
    | broken e => exact known e List.mem_cons_self
    | _ => exact known

theorem skip : Obeys skip := fun _ known e mem => known e (List.mem_of_mem_drop mem)

theorem expand (t : WrittenTag) : Obeys (expand t) := by
  rw [Builder.expand]
  split
  · exact .pure _
  · refine get.bind fun b => ?_
    split
    · exact .pure _
    · exact .malformed

theorem anchor? : Obeys anchor? := by
  refine peek.bind fun t => ?_
  split
  · exact skip.bind fun _ => .pure _
  · exact .pure _

theorem tag? : Obeys tag? := by
  refine peek.bind fun t => ?_
  split
  · exact skip.bind fun _ => .pure _
  · exact .pure _

theorem properties : Obeys properties := by
  refine anchor?.bind fun first => tag?.bind fun tag => ?_
  cases tag with
  | none => exact .ite (anchor?.bind fun _ => .pure _) (.pure _)
  | some t =>
    have expanded (anchor : Option Text) :=
      (expand t).bind fun found => .pure (⟨anchor, some found⟩ : Properties)
    exact .ite (anchor?.bind expanded) (expanded first)

theorem declare (name : Option Text) : Obeys (declare name) := by
  rw [Builder.declare.eq_def]
  split
  · exact .pure _
  · have taken (name : Text) := modify (g := fun b =>
      { b with anchors := (name, none) :: b.anchors }) fun _ => rfl
    exact get.bind fun b => .ite (.bind .malformed fun _ => taken _) (taken _)

theorem define (name : Option Text) (n : Node) : Obeys (define name n) := by
  rw [Builder.define.eq_def]
  split
  · exact .pure _
  · exact .bind (.modify fun _ => rfl) fun _ => .pure _

theorem referenced (name : Text) : Obeys (referenced name) := by
  refine get.bind fun b => ?_
  split
  · exact .pure _
  · exact .malformed

theorem afterComma (first : Bool) (closing : Token) : Obeys (afterComma first closing) :=
  peek.bind fun t => .ite (.pure t) (.ite (skip.bind fun _ => peek) .malformed)

end Obeys

/-- With so much fuel, all steps that read nodes stop only where reading does. -/
structure ObeysAt (fuel : Nat) : Prop where
  node (place : Place) : Obeys (node fuel place)
  content (place : Place) (p : Properties) : Obeys (content fuel place p)
  nodeUnless (ends : List Token) (place : Place) : Obeys (nodeUnless fuel ends place)
  valueUnless (ends : List Token) (place : Place) : Obeys (valueUnless fuel ends place)
  blockItems : Obeys (blockItems fuel)
  flatItems : Obeys (flatItems fuel)
  blockEntries : Obeys (blockEntries fuel)
  bracketItems (first : Bool) : Obeys (bracketItems fuel first)
  bracketEntries (first : Bool) : Obeys (bracketEntries fuel first)

namespace ObeysAt

theorem zero : ObeysAt 0 where
  node _ := .malformed
  content _ _ := .malformed
  nodeUnless _ _ := .malformed
  valueUnless _ _ := .malformed
  blockItems := .malformed
  flatItems := .malformed
  blockEntries := .malformed
  bracketItems _ := .malformed
  bracketEntries _ := .malformed

theorem succ {fuel : Nat} (h : ObeysAt fuel) : ObeysAt (fuel + 1) where
  node place := by
    rw [Builder.node]
    refine .bind .peek fun t => ?_
    split
    · exact .bind .skip fun _ => .referenced _
    · exact .bind .properties fun p => .bind (.declare _) fun _ =>
        .bind (h.content place p) fun _ => .define _ _
  content place p := by
    rw [Builder.content]
    refine .bind .peek fun t => ?_
    split
    · exact .bind .skip fun _ => .pure _
    · exact .bind .skip fun _ => .bind (h.bracketItems true) fun _ => .pure _
    · exact .bind .skip fun _ => .bind (h.bracketEntries true) fun _ => .pure _
    · exact .bind h.flatItems fun _ => .pure _
    · exact .bind .skip fun _ => .bind h.blockItems fun _ => .pure _
    · exact .bind .skip fun _ => .bind h.blockItems fun _ => .pure _
    · exact .bind .skip fun _ => .bind h.blockEntries fun _ => .pure _
    · exact .bind .skip fun _ => .bind h.blockEntries fun _ => .pure _
    · exact .ite .malformed (.pure _)
  nodeUnless ends place := by
    rw [Builder.nodeUnless]
    exact .bind .peek fun t => .ite (.pure _) (h.node place)
  valueUnless ends place := by
    rw [Builder.valueUnless]
    refine .bind .peek fun t => ?_
    split
    · exact .bind .skip fun _ => h.nodeUnless ends place
    · exact .pure _
  blockItems := by
    rw [Builder.blockItems]
    refine .bind .peek fun t => ?_
    split
    · exact .bind .skip fun _ => .bind (h.nodeUnless _ _) fun _ =>
        .bind h.blockItems fun _ => .pure _
    · exact .bind .skip fun _ => .pure _
    · exact .malformed
  flatItems := by
    rw [Builder.flatItems]
    refine .bind .peek fun t => ?_
    split
    · exact .bind .skip fun _ => .bind (h.nodeUnless _ _) fun _ =>
        .bind h.flatItems fun _ => .pure _
    · exact .pure _
  blockEntries := by
    rw [Builder.blockEntries]
    refine .bind .peek fun t => ?_
    split
    · exact .bind .skip fun _ => .bind (h.nodeUnless _ _) fun _ =>
        .bind (h.valueUnless _ _) fun _ => .bind h.blockEntries fun _ => .pure _
    · exact .bind .skip fun _ => .pure _
    · exact .malformed
  bracketItems first := by
    rw [Builder.bracketItems]
    refine .bind (.afterComma _ _) fun t => ?_
    split
    · exact .bind .skip fun _ => .pure _
    · exact .bind .skip fun _ => .bind (h.nodeUnless _ _) fun _ =>
        .bind (h.valueUnless _ _) fun _ => .bind (h.bracketItems false) fun _ => .pure _
    · exact .bind (h.node _) fun _ => .bind (h.bracketItems false) fun _ => .pure _
  bracketEntries first := by
    rw [Builder.bracketEntries]
    refine .bind (.afterComma _ _) fun t => ?_
    split
    · exact .bind .skip fun _ => .pure _
    · exact .bind .skip fun _ => .bind (h.nodeUnless _ _) fun _ =>
        .bind (h.valueUnless _ _) fun _ => .bind (h.bracketEntries false) fun _ => .pure _
    · exact .bind (h.node _) fun _ => .bind (h.bracketEntries false) fun _ => .pure _

end ObeysAt

theorem obeysAt (fuel : Nat) : ObeysAt fuel := by
  induction fuel with
  | zero => exact .zero
  | succ fuel ih => exact ih.succ

namespace Obeys

theorem instructions (fuel : Nat) (versioned : Bool) (handles : List (Text × Text)) :
    Obeys (instructions fuel versioned handles) := by
  induction fuel generalizing versioned handles with
  | zero => exact .malformed
  | succ fuel ih =>
    rw [Builder.instructions]
    refine .bind .peek fun t => ?_
    split
    · exact .bind .skip fun _ => .ite .malformed (ih _ _)
    · exact .bind .skip fun _ => .ite .malformed (ih _ _)
    · exact .bind .skip fun _ => ih _ _
    · exact .pure _

theorem document (fuel : Nat) : Obeys (document fuel) := by
  refine .bind .peek fun t => ?_
  split
  rotate_right
  · exact (obeysAt fuel).node .inBlock
  all_goals
    refine .bind (.instructions _ _ _) fun _ => .bind (.modify fun _ => rfl) fun _ =>
      .bind .peek fun t => ?_
    split
    · refine .bind .skip fun _ => .bind .peek fun t => ?_
      split
      all_goals first | exact .pure _ | exact (obeysAt fuel).node .inBlock
    · exact .malformed

theorem finished (fuel : Nat) : Obeys (finished fuel) := by
  induction fuel with
  | zero => exact .malformed
  | succ fuel ih =>
    rw [Builder.finished]
    refine .bind .peek fun t => ?_
    split
    · exact .bind .skip fun _ => ih
    · exact .pure _
    · exact .malformed

theorem whole (fuel : Nat) : Obeys (whole fuel) := by
  refine .bind .peek fun t => ?_
  split
  · exact .pure _
  · exact .bind (.document fuel) fun _ => .bind (.finished fuel) fun _ => .pure _

end Obeys
end Builder

/-- A text has a tree of nodes, or none, or something that reading stops at. -/
theorem Node.reads_ofText? (text : Text) : Reads (Node.ofText? text) :=
  (Builder.Obeys.whole _ ⟨tokens text, Builder.standardHandles, []⟩
    fun _ => stops_tokens text).map fun _ _ => trivial

end PageDirectives.Yaml
