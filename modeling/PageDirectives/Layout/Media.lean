import PageDirectives.Layout.Grid
import PageDirectives.Text.Escaped
/-!
Images and galleries. The address of an image is the first line of its block and the other lines
are its caption; a gallery has one address in each section.
-/
namespace PageDirectives.Layout

/-- A figure with an image and a caption, if there is one. -/
def figure (cssClass url caption : Text) : Text :=
  let captionPart : Text :=
    if caption = [] then [] else "  <figcaption>" ++ caption ++ "</figcaption>\n"
  "<figure class=\"" ++ cssClass ++ "\">\n  <img src=\"" ++ Text.asAttribute url ++ "\" alt=\"" ++
    Text.asAttribute caption ++ "\">\n" ++ captionPart ++ "</figure>\n"

/-- A class, or its variant if one is named. -/
def variantClass (cssClass separator variant : Text) : Text :=
  if variant = [] then cssClass else cssClass ++ separator ++ variant

/-- An image; a block without an address stays as it is. -/
def imageHandler : Handler := Handler.ofText fun o =>
  match Text.lines o.content with
  | [] => .ok o.raw
  | first :: rest =>
    let url := Text.trim first
    if url = [] then .ok o.raw
    else .ok (figure (variantClass "image" "-" (Text.trim o.args)) url
      (Text.trim (Text.ofLines rest)))

/-- A gallery of images in equal columns, three unless the arguments begin with another count. -/
def galleryHandler (delimiter : Text) : Handler := Handler.ofText fun o => do
  let count ← Failure.ofNumber (Argument.count o.args 3)
  let images := (Section.ofText delimiter o.content).map fun url =>
    column (span count) ("    <img src=\"" ++ Text.asAttribute url ++ "\" alt=\"\">\n")
  .ok ("<div class=\"gallery grid gap-4\">\n" ++ images.flatten ++ "</div>\n")

end PageDirectives.Layout
