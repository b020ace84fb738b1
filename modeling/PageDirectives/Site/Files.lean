import PageDirectives.Site.Path
import PageDirectives.Text.Utf8
/-!
A tree of files and what a path leads to in it. A path is followed name by name from the root or
from the present directory: each name but the last must lead to a directory, two points lead to the
directory above, and a link leads on to where it points. Reading unifies line ends; creating a
directory creates those above it. Permissions, limits on names and on space, and changes from
outside are left out.
-/
namespace PageDirectives

/-- What a file holds: a text, or bytes that are none. -/
abbrev Content := Except Utf8.DecodingError Text

/-- A place in a tree of files: the names on the way down from the root, none of them that of a
link. -/
abbrev Place := List Text

/-- What stands at a place. A file stands at one place; a further name of it is a link to that
place. -/
inductive Files.Node
  | directory
  | file (content : Content)
  | link (target : Path)

/-- A tree of files, with the present directory in it. This and whatever has entries below it is a
directory, with an entry of its own or without one. Of two entries for one place the first
counts. -/
structure Files where
  present : Place
  entries : List (Place × Files.Node)

/-- What can be wrong with a path. -/
inductive PathFault
  | absent
  | taken
  | notADirectory
  | isADirectory
  | tooManyLinks
  deriving Repr, DecidableEq

/-- Why a file or a directory is not read, created or written. -/
inductive FileError
  | wrong (path : Path) (fault : PathFault)
  | undecodable (e : Utf8.DecodingError)
  deriving Repr, DecidableEq

/-- The number of a fault and its wording. -/
def PathFault.named : PathFault → Nat × Text
  | absent => (2, "No such file or directory")
  | taken => (17, "File exists")
  | notADirectory => (20, "Not a directory")
  | isADirectory => (21, "Is a directory")
  | tooManyLinks => (40, "Too many levels of symbolic links")

/-- The wording of an error. -/
def FileError.message : FileError → Text
  | .wrong path fault =>
    let (number, reason) := fault.named
    "[Errno " ++ toString number ++ "] " ++ reason ++ ": " ++ Text.quoted path.write
  | .undecodable e => e.message

namespace Files

namespace Node

def isDirectory : Node → Bool
  | directory => true
  | _ => false

def content? : Node → Option Content
  | file content => some content
  | _ => none

def target? : Node → Option Path
  | link target => some target
  | _ => none

end Node

/-- The places of entries, and the present directory. -/
def places (files : Files) : List Place := files.present :: files.entries.map (·.1)

/-- Whether there is something below a place. -/
def isAbove (files : Files) (place : Place) : Bool :=
  files.places.any fun other => place.isPrefixOf other && place != other

/-- What stands at a place. -/
def nodeAt? (files : Files) (place : Place) : Option Node :=
  if place = files.present ∨ files.isAbove place then some .directory
  else files.entries.lookup place

/-- Whether there is a directory at a place. -/
def hasDirectory (files : Files) (place : Place) : Bool :=
  (files.nodeAt? place).any Node.isDirectory

/-- The content of the file at a place. -/
def contentAt? (files : Files) (place : Place) : Option Content :=
  (files.nodeAt? place).bind Node.content?

/-- Where the link at a place points. -/
def linkAt? (files : Files) (place : Place) : Option Path :=
  (files.nodeAt? place).bind Node.target?

/-- Goes into the directory at a place. -/
def enter (files : Files) (place : Place) : Except PathFault Place :=
  if files.hasDirectory place then .ok place
  else .error (if (files.nodeAt? place).isNone then .absent else .notADirectory)

/-- Follows names from a place. Behind a link, what it leads to is followed by other means. -/
def followBy (further : Place → List Text → Except PathFault Place) (files : Files)
    (place : Place) : List Text → Except PathFault Place
  | [] => .ok place
  | name :: names =>
    match files.enter place with
    | .error fault => .error fault
    | .ok place =>
      if name = ['.', '.'] then followBy further files place.dropLast names
      else
        match files.linkAt? (place ++ [name]) with
        | some target => further (if target.absolute then [] else place) (target.names ++ names)
        | none => followBy further files (place ++ [name]) names

/-- Follows names from a place, through no more than a number of links. -/
def follow (files : Files) : (links : Nat) → Place → List Text → Except PathFault Place
  | 0 => followBy (fun _ _ => .error .tooManyLinks) files
  | links + 1 => followBy (follow files links) files

/-- The greatest number of links on one path. -/
def maxLinks : Nat := 40

/-- The place that a path leads to, which may be one where nothing stands. -/
def locate (files : Files) (path : Path) : Except PathFault Place :=
  files.follow maxLinks (if path.absolute then [] else files.present) path.names

/-- The place that a path leads to, if it leads to one. -/
def place? (files : Files) (path : Path) : Option Place := (files.locate path).toOption

/-- Whether a path names a directory. -/
def isDirectory (files : Files) (path : Path) : Bool :=
  ((files.place? path).map files.hasDirectory).getD false

/-- Whether a path names a file. -/
def isFile (files : Files) (path : Path) : Bool :=
  ((files.place? path).bind files.contentAt?).isSome

/-- Whether a path names a file or a directory. -/
def isThere (files : Files) (path : Path) : Bool := files.isFile path || files.isDirectory path

/-- The ways down from a place to all that is below it. -/
def waysFrom (files : Files) (place : Place) : List Place :=
  files.places.filterMap fun other =>
    if place.isPrefixOf other then some (other.drop place.length) else none

/-- The names in a directory. -/
def listing (files : Files) (path : Path) : List Text :=
  match files.place? path with
  | none => []
  | some place => ((files.waysFrom place).filterMap List.head?).eraseDups

/-- The ways down from a directory to all directories at or below it, through no links. -/
def waysBelow (files : Files) (path : Path) : List Place :=
  match files.place? path with
  | none => []
  | some place =>
    let ways := (files.waysFrom place).flatMap fun way =>
      (List.range (way.length + 1)).map way.take
    ways.eraseDups.filter fun way => files.hasDirectory (place ++ way)

/-- Reads the text of a file. -/
def read (files : Files) (path : Path) : Except FileError Text :=
  match files.locate path with
  | .error fault => .error (.wrong path fault)
  | .ok place =>
    match files.nodeAt? place with
    | some (.file (.ok text)) => .ok (Text.unifyLineEnds text)
    | some (.file (.error e)) => .error (.undecodable e)
    | some .directory => .error (.wrong path .isADirectory)
    | _ => .error (.wrong path .absent)

/-- Puts something at a place, in the stead of what is there. -/
def put (files : Files) (place : Place) (node : Node) : Files :=
  { files with entries := (place, node) :: files.entries }

/-- Creates a directory where nothing stands, in a directory that is there. -/
def makeDirectory (files : Files) (path : Path) : Except PathFault Files :=
  match path.names.getLast?, (files.locate path.parent).bind files.enter with
  | none, _ => .error .taken
  | some _, .error fault => .error fault
  | some name, .ok above =>
    if name = ['.', '.'] ∨ (files.nodeAt? (above ++ [name])).isSome then .error .taken
    else .ok (files.put (above ++ [name]) .directory)

/-- Creates a directory, or does nothing if it is there. -/
def ensureDirectory (files : Files) (path : Path) : Except PathFault Files :=
  match files.makeDirectory path with
  | .error .absent => .error .absent
  | .error fault => if files.isDirectory path then .ok files else .error fault
  | .ok files => .ok files

/-- Creates the directory whose names are given from the last to the first, and those above it that
are not there. If one cannot be created, those before it are there still. -/
def createUpwards (files : Files) (absolute : Bool) : List Text → Except FileError Unit × Files
  | [] => finish files []
  | name :: above =>
    match files.ensureDirectory ⟨absolute, (name :: above).reverse⟩ with
    | .error .absent =>
      match createUpwards files absolute above with
      | (.ok (), files) => finish files (name :: above)
      | failed => failed
    | _ => finish files (name :: above)
where
  /-- The last step, for which the directory above is there or was found to be none. -/
  finish (files : Files) (names : List Text) : Except FileError Unit × Files :=
    let path : Path := ⟨absolute, names.reverse⟩
    match files.ensureDirectory path with
    | .ok files => (.ok (), files)
    | .error fault => (.error (.wrong path fault), files)

/-- Creates a directory and those above it that are not there. -/
def createDirectory (files : Files) (path : Path) : Except FileError Unit × Files :=
  files.createUpwards path.absolute path.names.reverse

/-- Writes a text to a file, whose directory has to be there. -/
def write (files : Files) (path : Path) (text : Text) : Except FileError Files :=
  match files.locate path with
  | .error fault => .error (.wrong path fault)
  | .ok place =>
    if files.hasDirectory place then .error (.wrong path .isADirectory)
    else .ok (files.put place (.file (.ok text)))

end Files
end PageDirectives
