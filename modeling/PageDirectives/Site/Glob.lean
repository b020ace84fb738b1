import PageDirectives.Site.Files
/-!
Patterns that select paths below a directory. A star stands for any characters of a name, a question
mark for one, brackets for one of a set; two stars as a whole name stand for any directories on the
way down. A pattern that ends with a slash selects directories only.
-/
namespace PageDirectives

/-- A part of a pattern for a name. -/
inductive NamePart
  | any
  | one
  | exactly (c : Char)
  | oneOf (negated : Bool) (ranges : List (Char × Char))
  deriving Repr, DecidableEq

namespace NamePart

/-- The ranges of characters that stand between brackets; a character alone is a range. -/
def ranges : Text → List (Char × Char)
  | low :: '-' :: high :: text => (low, high) :: ranges text
  | c :: text => (c, c) :: ranges text
  | [] => []

/-- Whether a character lies in one of several ranges. -/
def inRanges (found : List (Char × Char)) (c : Char) : Bool :=
  found.any fun (low, high) => low.toNat ≤ c.toNat && c.toNat ≤ high.toNat

/-- What stands between brackets behind the first one, and what follows the last one. A closing
bracket in the first place is one of the set. -/
def bracketed? (text : Text) : Option (Bool × Text × Text) :=
  let negated := text.head? = some '!'
  let text := if negated then text.drop 1 else text
  match text with
  | [] => none
  | c :: rest =>
    let more := rest.takeWhile (· != ']')
    if more.length = rest.length then none
    else some (negated, c :: more, rest.drop (more.length + 1))

/-- Reads a pattern for a name. A bracket that is not closed stands for itself. -/
def ofText : (fuel : Nat) → Text → List NamePart
  | 0, _ => []
  | _, [] => []
  | fuel + 1, c :: text =>
    if c = '*' then any :: ofText fuel text
    else if c = '?' then one :: ofText fuel text
    else if c = '[' then
      match bracketed? text with
      | some (negated, set, rest) => oneOf negated (ranges set) :: ofText fuel rest
      | none => exactly c :: ofText fuel text
    else exactly c :: ofText fuel text

/-- Whether a name has the form that parts describe. -/
def fits : List NamePart → Text → Bool
  | [], name => name.isEmpty
  | any :: parts, [] => fits parts []
  | any :: parts, c :: name => fits parts (c :: name) || fits (any :: parts) name
  | one :: parts, _ :: name => fits parts name
  | exactly c :: parts, d :: name => c == d && fits parts name
  | oneOf negated found :: parts, d :: name => (inRanges found d != negated) && fits parts name
  | _ :: _, [] => false
termination_by parts name => parts.length + name.length

end NamePart

/-- A name of a pattern for paths. -/
inductive Segment
  | literal (name : Text)
  | wild (parts : List NamePart)
  | deep
  deriving Repr, DecidableEq

/-- A pattern for paths. -/
structure Glob where
  segments : List Segment
  directoriesOnly : Bool
  deriving Repr, DecidableEq

/-- Why a text is no pattern. -/
inductive GlobError
  | nothing
  | absolute
  | mixedStars
  | noNames
  | onlySlash
  deriving Repr, DecidableEq

/-- The wording of a pattern error. -/
def GlobError.message : GlobError → Text
  | nothing => "Unacceptable pattern: ''"
  | absolute => "Non-relative patterns are unsupported"
  | mixedStars => "Invalid pattern: '**' can only be an entire path component"
  | noNames => "tuple index out of range"
  | onlySlash => "'_TerminatingSelector' object has no attribute 'select_from'"

/-- Reads one name of a pattern. -/
def Segment.ofText (name : Text) : Except GlobError Segment :=
  if name = ['*', '*'] then .ok .deep
  else if Text.contains name ['*', '*'] then .error .mixedStars
  else if '*' ∈ name ∨ '?' ∈ name ∨ '[' ∈ name then .ok (.wild (NamePart.ofText name.length name))
  else .ok (.literal name)

namespace Glob

/-- Reads a pattern. -/
def ofText (text : Text) : Except GlobError Glob := do
  if text = [] then .error .nothing
  if text.head? = some '/' then .error .absolute
  let segments ← (Path.namesOf text).mapM Segment.ofText
  let directoriesOnly := text.getLast? == some '/'
  if segments = [] then .error (if directoriesOnly then .onlySlash else .noNames)
  .ok ⟨segments, directoriesOnly⟩

/-- The paths that segments select from a directory. Only what is a directory leads further down. -/
def selectFrom (files : Files) (directoriesOnly : Bool) : List Segment → Path → List Path
  | [], path => [path]
  | segment :: rest, path =>
    let suits (path : Path) : Bool :=
      if directoriesOnly || !rest.isEmpty then files.isDirectory path else files.isThere path
    match segment with
    | .literal name =>
      if suits (path.child name) then selectFrom files directoriesOnly rest (path.child name)
      else []
    | .wild parts =>
      let names := (files.listing path).filter fun name =>
        NamePart.fits parts name && suits (path.child name)
      names.flatMap fun name => selectFrom files directoriesOnly rest (path.child name)
    | .deep =>
      ((files.waysBelow path).flatMap fun way =>
        selectFrom files directoriesOnly rest (path.below way)).eraseDups

/-- The paths that a pattern selects below a directory. -/
def select (glob : Glob) (files : Files) (directory : Path) : List Path :=
  selectFrom files glob.directoriesOnly glob.segments directory

/-- The files that a pattern selects below a directory, in the order of their paths. -/
def filesIn (glob : Glob) (files : Files) (directory : Path) : List Path :=
  ((glob.select files directory).filter files.isFile).mergeSort Path.le

end Glob
end PageDirectives
