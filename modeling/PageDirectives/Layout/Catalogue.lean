import PageDirectives.Layout.Branch
import PageDirectives.Layout.Interactive
import PageDirectives.Layout.Listing
import PageDirectives.Layout.Note
import PageDirectives.Layout.Wrapper
/-!
The catalogue of layout directives. A block inside another has to run before it, since a body ends
at the first closing line; so listings run first, then blocks without blocks in them and notes on
one line, then wrappers around one body, and layouts of several sections last.
-/
namespace PageDirectives.Layout

/-- The priority of listings. -/
def listingPriority : Int := 10

/-- The priority of blocks that hold no other blocks and of notes on one line. -/
def leafPriority : Int := 50

/-- The priority of wrappers around one body. -/
def wrapperPriority : Int := 75

/-- The directives of the catalogue in order, with a highlighter for listings, a delimiter for
sections and a priority for layouts. -/
def catalogue (highlighter : Highlighter) (delimiter : Text) (layoutPriority : Int) :
    List Registration :=
  [⟨"code", .block, listingPriority, Listing.handler highlighter⟩,
    ⟨"columns", .block, layoutPriority, columnsHandler delimiter⟩,
    ⟨"split", .block, layoutPriority, splitHandler delimiter⟩,
    ⟨"stack-mobile", .block, layoutPriority, stackHandler delimiter⟩,
    ⟨"grid", .block, layoutPriority, gridHandler delimiter⟩,
    ⟨"collection", .block, layoutPriority, collectionHandler⟩,
    ⟨"cards", .block, layoutPriority, cardsHandler delimiter⟩] ++
  containers.map (fun c => ⟨c.1, .block, wrapperPriority, divisionHandler c.2⟩) ++
  [⟨"testimonial", .block, leafPriority, testimonialHandler⟩,
    ⟨"hero", .block, layoutPriority, heroHandler⟩,
    ⟨"image", .block, leafPriority, imageHandler⟩,
    ⟨"gallery", .block, layoutPriority, galleryHandler delimiter⟩,
    ⟨"space", .inline, leafPriority, spaceHandler⟩] ++
  lineNotes.map (fun n => ⟨n.1, .inline, leafPriority, lineNoteHandler n.2.1 n.2.2⟩) ++
  [⟨"callout", .block, leafPriority, calloutHandler⟩,
    ⟨"button", .block, leafPriority, buttonHandler⟩,
    ⟨"form", .block, leafPriority, formHandler⟩,
    ⟨"if", .block, layoutPriority, branchHandler⟩]

/-- A registry with the whole catalogue added to it. -/
def register (highlighter : Highlighter) (delimiter : Text) (registry : Registry) : Registry :=
  { registry with
    registrations := (catalogue highlighter delimiter registry.defaultPriority).foldl
      (fun registrations r => Registry.put r registrations) registry.registrations }

end PageDirectives.Layout
