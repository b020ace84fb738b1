import PageDirectives.Directive.Scan
/-!
Lines that still look like directives once all handlers have run: their names, and a text without
them. Removing them takes whole blocks first, whatever opens them, and then single lines, whose
line feeds stay.
-/
namespace PageDirectives.Directive

/-- Reads the name behind a mark at the start of a line. -/
def leftoverName : Recogniser Text := fun lineStart text =>
  if !lineStart then none
  else do
    let rest ← Text.after? mark text
    let name := rest.takeWhile Text.isNameChar
    if name = [] then none else some (name, mark.length + name.length)

/-- Reads a block of any name. -/
def leftoverBlock : Recogniser Unit := fun lineStart text => do
  let (_, size) ← leftoverName lineStart text
  let tail ← blockTail? closes (text.drop size)
  some ((), size + tail.size)

/-- Reads a line that begins with a mark and a name. -/
def leftoverLine : Recogniser Unit := fun lineStart text => do
  let _ ← leftoverName lineStart text
  some ((), (Text.firstLine text).length)

/-- The members of a list without repetitions, each at its first place. -/
def distinct (names : List Text) : List Text :=
  names.foldl (fun seen name => if seen.contains name then seen else seen ++ [name]) []

/-- The names that line starts still show, in the order in which they first appear. -/
def leftovers (text : Text) : List Text :=
  distinct (((Search.all leftoverName text).map (·.found)).filter (!isReserved ·))

/-- A text without what still looks like a directive. -/
def stripLeftovers (text : Text) : Text :=
  Search.exchange leftoverLine (fun _ => []) (Search.exchange leftoverBlock (fun _ => []) text)

end PageDirectives.Directive
