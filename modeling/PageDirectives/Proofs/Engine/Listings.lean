import PageDirectives.Layout.Monokai
import PageDirectives.Proofs.Engine.Blocks
import PageDirectives.Proofs.Layout.Catalogue
import PageDirectives.Proofs.Layout.Listing
/-!
Code listings are inert. Listings run first, and a listing takes every marked line between its
opening and the next closing line with it. So where no other lines are marked, the handlers behind
it and the policy meet a text without any.
-/
namespace PageDirectives

namespace Engine

open Directive

variable {highlighter : Highlighter} {defaultPriority : Int} {text tail closing : Text}
  {before body after : List Text}

variable (highlighter) in
/-- The handler of listings, which runs first, gets a listing as it is written if no line above
opens one, whatever it makes of it. -/
theorem mem_calls_listings (delimiter sections : Text) (policy : LeftoverPolicy) (page : Entries)
    (low : Layout.listingPriority ≤ defaultPriority)
    (listed : HasBlock "code" tail before body closing after text)
    (free : ∀ line ∈ before, opening? "code" line = none) :
    ⟨.builtIn, closedOccurrence page "code" tail body closing⟩ ∈
      (process ⟨Layout.register highlighter delimiter { defaultPriority }, policy, sections⟩ page
        text).trace.calls := by
  obtain ⟨others, first⟩ := Layout.sorted_register highlighter delimiter low
  have unread : ∀ line ∈ before, ∀ later, reader "code" page .block line later = none :=
    fun line hl later => blockLines_eq_none_iff.2 (.inl (free line hl))
  have found : (scan text "code" .block page).map (·.found) =
      closedOccurrence page "code" tail body closing ::
        (reader "code" page .block).found after := by
    rw [scan, (recogniser_reads (by decide) page .block).all_eq, LineReader.map_found_allFrom,
      listed.written, LineReader.found_append_of_none unread,
      (pass_closed (fun _ => []) after listed.ends listed.inside listed.closed).1]
  obtain ⟨s, others', scanned, same, -⟩ := List.map_eq_cons_iff.1 found
  refine Traced.mem_calls_bind ?_
  rw [expand, first, List.foldlM_cons]
  refine Traced.mem_calls_bind ?_
  change _ ∈ ([Form.block].foldlM (applyForm (Layout.listings highlighter) page) text).trace.calls
  rw [List.foldlM_cons, ← same]
  exact Traced.mem_calls_bind (mem_calls_applyForm_cons scanned)

theorem OnlyBlock.process_listings (only : OnlyBlock "code" tail before body closing after text)
    {shown : Text} (highlighted : highlighter.highlight (Listing.language (Text.trim tail))
      (Text.trim (Text.ofLines body)) = .ok shown) (delimiter sections : Text)
    (policy : LeftoverPolicy) (page : Entries) (low : Layout.listingPriority ≤ defaultPriority) :
    Engine.process ⟨Layout.register highlighter delimiter { defaultPriority }, policy, sections⟩ page
        text =
      oneCall (Layout.listings highlighter) (closedOccurrence page "code" tail body closing)
        (Text.beforeLine before ++ Listing.disarm shown ++ Text.afterLine after) := by
  obtain ⟨others, first⟩ := Layout.sorted_register highlighter delimiter low
  have answered : (Listing.handler highlighter).run (closedOccurrence page "code" tail body closing)
      = .ok (.text (Listing.disarm shown)) :=
    Listing.run_handler_eq_ok_iff.2 ⟨shown, highlighted, rfl⟩
  exact only.process (Layout.wellFormed_register highlighter delimiter defaultPriority) first rfl
    answered (Listing.quiet_disarm shown)

end Engine
end PageDirectives
