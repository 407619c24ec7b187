import CommandManual.Text.Basic

/-!
# Paths

A path is written as names with slashes between them. Empty names and single dots say nothing and
are left out; two dots stay, because what they lead to depends on the disk.

## Main definitions

* `Path`: a path. `Path.ofText` reads it and `Path.text` writes it.
* `Path.name`, `Path.parent`, `Path.withName`, `Path.inside`: its parts, and paths beside and below.
-/

namespace CommandManual

/-- A path: the slashes that it begins with, and its names. -/
structure Path where
  /-- Empty for a path that begins at the working directory. -/
  root : Text
  names : List Text
  deriving DecidableEq, Repr

namespace Path

/-- The slashes that a text begins with. Two are kept, more count as one. -/
def rootOf : Text → Text
  | '/' :: '/' :: '/' :: _ => ['/']
  | '/' :: '/' :: _ => ['/', '/']
  | '/' :: _ => ['/']
  | _ => []

/-- The path that a text spells. -/
def ofText (t : Text) : Path where
  root := rootOf t
  names := (Text.splitOn '/' t).filter fun n => n ≠ [] && n ≠ ['.']

/-- Does the path begin at the root of the disk? -/
def isAbsolute (p : Path) : Bool := !p.root.isEmpty

/-- The shortest spelling of the path; a single dot is the working directory. -/
def text (p : Path) : Text :=
  if p.root.isEmpty && p.names.isEmpty then ['.'] else p.root ++ ['/'].intercalate p.names

/-- The last name, empty if there is none. -/
def name (p : Path) : Text := p.names.getLast?.getD []

/-- The path without its last name. -/
def parent (p : Path) : Path := { p with names := p.names.dropLast }

/-- The path with another last name. -/
def withName (p : Path) (name : Text) : Path := { p with names := p.names.dropLast ++ [name] }

/-- The path below a directory, or the path itself if it is absolute. -/
def inside (directory p : Path) : Path :=
  if p.isAbsolute then p else { directory with names := directory.names ++ p.names }

/-- Two paths with one last name beside each other have the same parent. -/
@[simp] theorem parent_withName (p : Path) (name : Text) : (p.withName name).parent = p.parent := by
  simp [withName, parent]

@[simp] theorem name_withName (p : Path) (name : Text) : (p.withName name).name = name := by
  simp [withName, Path.name]

end Path

end CommandManual
