import PageDirectives.Text.Basic
/-!
Paths as lists of names between slashes. Empty names and single points do not count; two points name
the directory above and stay in the path.
-/
namespace PageDirectives

/-- A path, from the root or from the present directory. -/
structure Path where
  absolute : Bool := false
  names : List Text
  deriving Repr, DecidableEq

namespace Path

/-- The names that a text writes. -/
def namesOf (text : Text) : List Text :=
  (Text.splitOn '/' text).filter fun name => name ≠ [] ∧ name ≠ ['.']

/-- Reads a path. -/
def ofText (text : Text) : Path := ⟨text.head? == some '/', namesOf text⟩

/-- Writes a path; the present directory is a point. -/
def write (p : Path) : Text :=
  let names := Text.join ['/'] p.names
  if p.absolute then '/' :: names else if p.names = [] then ['.'] else names

/-- The path of something in a directory. -/
def child (p : Path) (name : Text) : Path := { p with names := p.names ++ [name] }

/-- The path of something below a directory. -/
def below (p : Path) (names : List Text) : Path := { p with names := p.names ++ names }

/-- The directory that holds what a path names. -/
def parent (p : Path) : Path := { p with names := p.names.dropLast }

/-- The last name of a path. -/
def name (p : Path) : Text := p.names.getLastD []

/-- Whether a text comes before another, or is the same, by the numbers of its characters. -/
def textLe : Text → Text → Bool
  | [], _ => true
  | _ :: _, [] => false
  | c :: s, d :: t => if c = d then textLe s t else c.toNat < d.toNat

/-- Whether names come before others, or are the same, name by name. -/
def namesLe : List Text → List Text → Bool
  | [], _ => true
  | _ :: _, [] => false
  | a :: p, b :: q => if a = b then namesLe p q else textLe a b

/-- Whether a path comes before another, or is the same. -/
def le (p q : Path) : Bool := namesLe p.names q.names

end Path
end PageDirectives
