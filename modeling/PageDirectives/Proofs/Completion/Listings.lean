import PageDirectives.Proofs.Completion.BlankPrompts
import PageDirectives.Proofs.Engine.Listings
import PageDirectives.Transform
/-!
Completions and code listings. Completions are resolved before any listing is made, and the search
for them knows nothing of listings: it reads the body of a listing as it reads any other lines. So
the lines of a listing that ask for completions are answered as all others are, and a listing stays
as it was written if it has none and no block from above takes it in.
-/
namespace PageDirectives

open Directive

namespace Prompted

/-- Whether a line asks for a completion where a later line closes a block. -/
def asks (line : Text) : Bool := (openingArgs? line).isSome || (inlineLine? line).isSome

theorem dropWhile_mark (rest : Text) :
    (mark ++ rest).dropWhile Text.isInlineBlank = mark ++ rest :=
  dropWhile_blanks (fun _ h => absurd h List.not_mem_nil) rest

theorem closes_of_closes {line : Text} (h : Directive.closes line = true) : closes line = true := by
  obtain ⟨blanks, same, -⟩ := Directive.closes_iff.1 h
  rw [closes, same, List.append_assoc, dropWhile_mark, ← List.append_assoc, ← same, h]

theorem reader_of_rest {line : Text} (h : rest? line = none) (later : List Text) :
    reader line later = none :=
  reader_eq_none_iff.2 ⟨.inl (by rw [openingArgs?, h]; rfl), by rw [inlineLine?, h]; rfl⟩

theorem reader_closing {closing : Text} (closed : Directive.closes closing = true)
    (later : List Text) : reader closing later = none := by
  obtain ⟨blanks, rfl, -⟩ := Directive.closes_iff.1 closed
  exact reader_of_rest rfl later

theorem reader_code (tail : Text) (later : List Text) :
    reader (openingLine "code" tail) later = none :=
  reader_of_rest rfl later

/-- A block ends at the first line that closes, so nothing behind such a line matters. -/
theorem reader_append {middle : List Text} {closing : Text} (mem : closing ∈ middle)
    (closed : closes closing = true) (line : Text) (after : List Text) :
    reader line (middle ++ after) = reader line middle ∧
      ∀ p more, reader line middle = some (p, more) → more ≤ middle.length := by
  obtain ⟨last, first⟩ : ∃ last, middle.findIdx? closes = some last := by
    rw [← Option.isSome_iff_exists, List.findIdx?_isSome, List.any_eq_true]
    exact ⟨closing, mem, closed⟩
  apply reader_append_of_findIdx?
  rw [List.findIdx?_append, first, Option.some_or]

theorem reader_eq_none_iff_asks {middle : List Text} {closing : Text} (mem : closing ∈ middle)
    (closed : closes closing = true) (line : Text) :
    reader line middle = none ↔ asks line = false := by
  have closes : middle.findIdx? closes ≠ none := by
    rw [Ne, List.findIdx?_eq_none_iff]
    exact fun never => Bool.false_ne_true ((never closing mem).symm.trans closed)
  simp [reader_eq_none_iff, closes, asks]

/-- What a search finds in the body of a listing does not depend on what comes behind it. -/
theorem allFrom_body (offset : Nat) (body : List Text) {closing : Text}
    (closed : Directive.closes closing = true) (after : List Text) :
    reader.allFrom offset (body ++ closing :: after) =
      reader.allFrom offset (body ++ [closing]) ++
        reader.allFrom (offset + (Text.beforeLine (body ++ [closing])).length) after := by
  rw [List.append_cons]
  refine LineReader.allFrom_append offset fun line later suffix => ?_
  rcases List.suffix_concat_iff.1 suffix with none | ⟨front, same, -⟩
  · exact absurd none (List.cons_ne_nil line later)
  cases front with
  | nil =>
    obtain ⟨rfl, rfl⟩ := List.cons.inj same
    simp [reader_closing closed]
  | cons first front =>
    obtain ⟨rfl, rfl⟩ := List.cons.inj same
    exact reader_append (by simp) (closes_of_closes closed) line after

theorem allFrom_body_eq_nil_iff (offset : Nat) (body : List Text) {closing : Text}
    (closed : Directive.closes closing = true) :
    reader.allFrom offset (body ++ [closing]) = [] ↔ ∀ line ∈ body, asks line = false := by
  induction body generalizing offset with
  | nil => simp [LineReader.allFrom, reader_closing closed]
  | cons line body ih =>
    have mem : closing ∈ body ++ [closing] := by simp
    rw [List.forall_mem_cons, ← reader_eq_none_iff_asks mem (closes_of_closes closed),
      List.cons_append, LineReader.allFrom]
    cases reader line (body ++ [closing]) with
    | none => simpa using ih _
    | some read => simp

/-- No directive reaches across an offset. -/
def NoneAcross (text : Text) (offset : Nat) : Prop :=
  ∀ s ∈ all text, s.start < offset → s.stop ≤ offset

/-- No directive touches what lies between two offsets. -/
def Spares (text : Text) (start stop : Nat) : Prop :=
  ∀ s ∈ all text, s.stop ≤ start ∨ stop ≤ s.start

section Listing

variable {tail closing : Text} {before body after : List Text} {text : Text}
  (listed : HasBlock "code" tail before body closing after text)

include listed

/-- If no block from above takes a listing in, the directives of a text are those above the listing,
those of its body read by itself, and those below. -/
theorem all_of_noneAcross (apart : NoneAcross text (Text.beforeLine before).length) :
    let start := (Text.beforeLine before).length
    let opening := openingLine "code" tail
    ∃ above below, all text = above ++ reader.allFrom (start + opening.length + 1)
        (body ++ [closing]) ++ below ∧ (∀ s ∈ above, s.stop < start) ∧
      ∀ s ∈ below, start + (Text.ofLines (opening :: (body ++ [closing]))).length < s.start := by
  intro start opening
  have nonempty : opening ≠ [] := List.cons_ne_nil _ _
  rw [NoneAcross, all_eq, listed.written] at apart
  rw [all_eq, listed.written]
  obtain ⟨above, found, ends⟩ := LineReader.exists_above 0 before nonempty _
    (by simpa only [Nat.zero_add] using apart)
  rw [Nat.zero_add] at found ends
  have body := allFrom_body (start + opening.length + 1) body listed.closed after
  rw [LineReader.allFrom, reader_code] at found
  refine ⟨above, _, by rw [found, body, List.append_assoc], ends, fun s hs => ?_⟩
  have from' := (LineReader.bounds_of_mem_allFrom reader_nil hs).1
  rw [Text.length_beforeLine] at from'
  rw [Text.ofLines_cons, List.length_append]
  omega

/-- A listing is spared if no block from above takes it in and no line of its body asks. -/
theorem spares_iff :
    let start := (Text.beforeLine before).length
    let stop := start + (Text.ofLines (openingLine "code" tail :: (body ++ [closing]))).length
    Spares text start stop ↔ NoneAcross text start ∧ ∀ line ∈ body, asks line = false := by
  intro start stop
  have width : stop = start + ((openingLine "code" tail).length + 1 +
      (Text.ofLines (body ++ [closing])).length) :=
    congrArg (start + ·) (Text.length_ofLines_cons _ (by simp))
  rw [← allFrom_body_eq_nil_iff (start + (openingLine "code" tail).length + 1) body listed.closed]
  constructor
  · intro spared
    have apart : NoneAcross text start := fun s hs lt => (spared s hs).resolve_right (by omega)
    refine ⟨apart, List.eq_nil_iff_forall_not_mem.2 fun s hs => ?_⟩
    obtain ⟨above, below, found, -, -⟩ := all_of_noneAcross listed apart
    have mem : s ∈ all text := by
      rw [found]
      exact List.mem_append_left below (List.mem_append_right above hs)
    obtain ⟨le, lt, within⟩ := LineReader.bounds_of_mem_allFrom reader_nil hs
    rcases spared s mem with above | below <;> omega
  · rintro ⟨apart, none⟩ s hs
    obtain ⟨above, below, found, ends, starts⟩ := all_of_noneAcross listed apart
    rw [found, none, List.append_nil, List.mem_append] at hs
    exact hs.imp (fun h => (ends s h).le) fun h => (starts s h).le

end Listing

end Prompted

namespace Resolver

/-- Lines that no directive touches are kept by resolving, as lines. -/
theorem exists_lines_kept {resolver : Resolver} {past : Dialogue} {text out : Text}
    (ok : (resolver.resolve past text).text = .ok out)
    {before kept after : List Text} (written : Text.lines text = before ++ (kept ++ after))
    (ne : kept ≠ []) {above below : List (Located Prompted)}
    (found : Prompted.all text = above ++ below)
    (ends : ∀ s ∈ above, s.stop < (Text.beforeLine before).length)
    (starts : ∀ s ∈ below,
      (Text.beforeLine before).length + (Text.ofLines kept).length < s.start) :
    ∃ front back, Text.lines out = front ++ (kept ++ back) := by
  obtain ⟨texts, -, same, rfl⟩ := exists_texts ok
  rw [Prompted.gaps, ← Splice.behind_zip text 0 (by rw [List.length_map, same])]
  rw [found, List.length_append] at same
  have parts : ((above ++ below).map fun s => (s.start, s.stop)).zip texts =
      (above.map fun s => (s.start, s.stop)).zip (texts.take above.length) ++
        (below.map fun s => (s.start, s.stop)).zip (texts.drop above.length) := by
    rw [List.map_append, ← List.zip_append (by simp [same]), List.take_append_drop]
  have bounds : ∀ s ∈ above ++ below, s.start < s.stop ∧ s.stop ≤ text.length :=
    fun s hs => Prompted.bounds_of_mem_all (found ▸ hs)
  rw [found, parts]
  refine Splice.exists_lines_behind written ne (fun s hs => ?_) fun s hs => ?_
  · obtain ⟨t, ht, span⟩ := List.mem_map.1 (List.of_mem_zip hs).1
    rw [← span]
    exact ⟨(bounds t (List.mem_append_left below ht)).1.le, ends t ht⟩
  · obtain ⟨t, ht, span⟩ := List.mem_map.1 (List.of_mem_zip hs).1
    obtain ⟨lt, le⟩ := bounds t (List.mem_append_right above ht)
    rw [← span, List.length_append]
    exact ⟨starts t ht, Nat.lt_of_lt_of_le lt le⟩

theorem exists_listing_kept {resolver : Resolver} {past : Dialogue} {text out : Text}
    (ok : (resolver.resolve past text).text = .ok out) {tail closing : Text}
    {before body after : List Text}
    (listed : HasBlock "code" tail before body closing after text)
    (spared : Prompted.Spares text (Text.beforeLine before).length
      ((Text.beforeLine before).length +
        (Text.ofLines (openingLine "code" tail :: (body ++ [closing]))).length)) :
    ∃ front back,
      Text.lines out = front ++ openingLine "code" tail :: (body ++ closing :: back) := by
  obtain ⟨apart, silent⟩ := (Prompted.spares_iff listed).1 spared
  obtain ⟨above, below, found, ends, starts⟩ := Prompted.all_of_noneAcross listed apart
  rw [(Prompted.allFrom_body_eq_nil_iff _ body listed.closed).2 silent, List.append_nil] at found
  have written : Text.lines text =
      before ++ (openingLine "code" tail :: (body ++ [closing]) ++ after) := by
    rw [listed.written, List.cons_append, List.append_assoc, List.singleton_append]
  obtain ⟨front, back, kept⟩ :=
    exists_lines_kept ok written (List.cons_ne_nil _ _) found ends starts
  rw [List.cons_append, List.append_assoc, List.singleton_append] at kept
  exact ⟨front, back, kept⟩

end Resolver

/-- The directives of a document are those of the text that resolving leaves. -/
theorem transformText_of_ok (engine : Engine) {resolver : Resolver} {past : Dialogue}
    (page : Entries) {text out : Text} (notes : List Note)
    (ok : (resolver.resolve past text).text = .ok out) :
    (transformText engine resolver past page text notes).calls =
        (engine.process page out).trace.calls ∧
      (transformText engine resolver past page text notes).text =
        (engine.process page out).result.mapError .number := by
  rw [transformText, ok]
  exact ⟨rfl, rfl⟩

theorem dialogue_transformText {engine : Engine} {resolver : Resolver} {past : Dialogue}
    {page : Entries} {text : Text} {notes : List Note} :
    (transformText engine resolver past page text notes).dialogue =
      (resolver.resolve past text).dialogue := by
  simp only [transformText]
  split <;> rfl

/-- Completions are resolved in listings as anywhere else: one for each directive of the text, those
in the body of a listing among them. A listing stays as written, and its handler gets it as written,
if no block from above takes it in and no line of its body asks. -/
theorem transformText_listing (resolver : Resolver) (past : Dialogue) (page : Entries)
    (notes : List Note) (highlighter : Highlighter) (delimiter sections : Text)
    (policy : LeftoverPolicy) {defaultPriority : Int}
    (low : Layout.listingPriority ≤ defaultPriority) {text tail closing : Text}
    {before body after : List Text} (listed : HasBlock "code" tail before body closing after text) :
    let engine : Engine :=
      ⟨Layout.register highlighter delimiter { defaultPriority }, policy, sections⟩
    let run := transformText engine resolver past page text notes
    let start := (Text.beforeLine before).length
    let stop := start + (Text.ofLines (openingLine "code" tail :: (body ++ [closing]))).length
    let queries := (Prompted.all text).map (·.found.query resolver.defaultPrompt)
    (resolver.service.enabled = true → ∃ n, run.dialogue.called = past.called ++ queries.take n ∧
      (Resolver.isExpired resolver.timeout = .ok false →
        run.dialogue.asked = past.asked ++ queries.take n) ∧
      ((∃ out, (resolver.resolve past text).text = .ok out) → queries.length ≤ n)) ∧
    (Prompted.NoneAcross text start → ∃ above below, Prompted.all text = above ++
        Prompted.reader.allFrom (start + (openingLine "code" tail).length + 1)
          (body ++ [closing]) ++ below ∧
      (∀ s ∈ above, s.stop < start) ∧ ∀ s ∈ below, stop < s.start) ∧
    (Prompted.Spares text start stop ↔
      Prompted.NoneAcross text start ∧ ∀ line ∈ body, Prompted.asks line = false) ∧
    (Prompted.Spares text start stop → ∀ out, (resolver.resolve past text).text = .ok out →
      ∃ front back,
        Text.lines out = front ++ openingLine "code" tail :: (body ++ closing :: back) ∧
          ((∀ line ∈ front, opening? "code" line = none) →
            ⟨.builtIn, closedOccurrence page "code" tail body closing⟩ ∈ run.calls)) := by
  intro engine run start stop queries
  refine ⟨fun on => ?_, Prompted.all_of_noneAcross listed, Prompted.spares_iff listed,
    fun spared out ok => ?_⟩
  · obtain ⟨n, begun, called, asked, -, inTime, -, whole⟩ := Resolver.exists_sent on past text
    rw [← dialogue_transformText] at called asked
    exact ⟨n, called, fun time => inTime time ▸ asked, whole⟩
  · obtain ⟨front, back, kept⟩ := Resolver.exists_listing_kept ok listed spared
    have still : HasBlock "code" tail front body closing back out :=
      ⟨kept, listed.ends, listed.inside, listed.closed⟩
    have calls := Engine.mem_calls_listings highlighter delimiter sections policy page low still
    rw [← (transformText_of_ok engine page notes ok).1] at calls
    exact ⟨front, back, kept, calls⟩

/-- A listing between two directives. -/
theorem transformText_listing_between :
    let resolver : Resolver := ⟨Service.scripted true [], .int 60, "Say hello"⟩
    let engine : Engine := ⟨Layout.register Listing.monokai "---" {}, .warn, "---"⟩
    let text : Text := " ::ai first\n::code text\n::note x\n::end\n::ai last"
    let out : Text := "response 1\n::code text\n::note x\n::end\nresponse 2"
    let run := transformText engine resolver {} [] text []
    let block := closedOccurrence [] "code" " text" ["::note x"] "::end"
    Layout.listingPriority ≤ 100 ∧
      HasBlock "code" " text" [" ::ai first"] ["::note x"] "::end" ["::ai last"] text ∧
      (resolver.resolve {} text).text = .ok out ∧
      run.dialogue.asked = (Prompted.all text).map (·.found.query "Say hello") ∧
      Prompted.Spares text 12 38 ∧
      ∃ front back, Text.lines out =
          front ++ openingLine "code" " text" :: "::note x".toList :: "::end".toList :: back ∧
        ((∀ line ∈ front, opening? "code" line = none) → ⟨.builtIn, block⟩ ∈ run.calls) := by
  intro resolver engine text out run block
  have low : Layout.listingPriority ≤ 100 := by decide
  have listed : HasBlock "code" " text" [" ::ai first"] ["::note x"] "::end" ["::ai last"] text :=
    ⟨by decide, by decide, by decide, by decide⟩
  have ok : (resolver.resolve {} text).text = .ok out := by decide +kernel
  obtain ⟨sends, -, spares, kept⟩ :=
    transformText_listing resolver {} [] [] Listing.monokai "---" "---" .warn low listed
  obtain ⟨n, -, asked, whole⟩ := sends rfl
  have spared := spares.2 ⟨by unfold Prompted.NoneAcross; decide +kernel, by decide +kernel⟩
  refine ⟨low, listed, ok, ?_, spared, kept spared out ok⟩
  rw [asked rfl, List.take_of_length_le (whole ⟨out, ok⟩)]
  rfl

/-- A line of a listing asks for a completion, and the listing shows the answer in its place. -/
theorem transformText_listing_answered :
    let resolver : Resolver := ⟨Service.scripted true [.ok (.text "R")], .int 60, "Say hello"⟩
    let engine : Engine := ⟨Layout.register Listing.monokai "---" {}, .warn, "---"⟩
    let text : Text := "::code layoutsyntax\n::ai hello\n::end"
    let run := transformText engine resolver {} [] text []
    HasBlock "code" " layoutsyntax" [] ["::ai hello"] "::end" [] text ∧
      run.dialogue.asked.map (·.prompt) = ["hello".toList] ∧
      run.calls.map (·.occurrence.content) = ["R".toList] ∧
      run.text = .ok (Listing.disarm (Listing.markup (Lexer.tokens "R"))) := by
  intro resolver engine text run
  have resolved : (resolver.resolve {} text).text =
      .ok "::code layoutsyntax\nR\n::end".toList := by
    decide +kernel
  have only : Engine.OnlyBlock "code" " layoutsyntax" [] ["R"] "::end" []
      "::code layoutsyntax\nR\n::end" :=
    ⟨⟨by decide, by decide, by decide, by decide⟩, by decide⟩
  have low : Layout.listingPriority ≤ 100 := by decide
  have highlighted : Listing.monokai.highlight (Listing.language (Text.trim " layoutsyntax"))
      (Text.trim (Text.ofLines ["R"])) = .ok (Listing.markup (Lexer.tokens "R")) :=
    Listing.highlight_of_markupNames (by decide +kernel) _
  have listed := only.process_listings highlighted "---" "---" .warn [] low
  obtain ⟨calls, out⟩ := transformText_of_ok engine [] [] resolved
  refine ⟨⟨by decide, by decide, by decide, by decide⟩, by decide +kernel, ?_, ?_⟩
  · rw [calls, listed]
    decide +kernel
  · rw [out, listed]
    exact congrArg Except.ok (List.append_nil _)

end PageDirectives
