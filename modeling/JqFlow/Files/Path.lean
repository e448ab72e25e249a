import JqFlow.Text.Basic

/-!
# Paths

A path is kept in a normal form: where it starts, and its parts without the empty ones and the
dots, which say nothing. A part `..` is kept, because it leads somewhere only in a file tree.

## Main definitions

- `Path.ofText`, `Path.toText`: reading and writing
- `Path.name`, `Path.stem`, `Path.suffix`, `Path.parent`: the pieces of a path
- `Path.withSuffix?`: another suffix for the same file
- `Location`, `Path.locate`: the place in a file tree without links that a path leads to
-/

namespace JqFlow

/-- Where a path starts. Two slashes, and no more, are kept apart from one. -/
inductive PathRoot
  | relative
  | absolute
  | doubled
  deriving DecidableEq

/-- The root as it is written. -/
def PathRoot.toText : PathRoot → Text
  | relative => ""
  | absolute => "/"
  | doubled => "//"

/-- A path in normal form. -/
structure Path where
  root : PathRoot
  parts : List Text
  deriving DecidableEq

/-- A place in a file tree: the names on the way to it from the top. -/
abbrev Location := List Text

namespace Path

/-- The part that leads to the folder around. -/
def up : Text := ".."

/-- The root of a path with so many slashes at its start. -/
def rootOf : Nat → PathRoot
  | 0 => .relative
  | 2 => .doubled
  | _ => .absolute

/-- The path that a text denotes. -/
def ofText (t : Text) : Path where
  root := rootOf (t.takeWhile (· = CodePoint.scalar '/')).length
  parts := (t.splitOn '/').filter fun part => part ≠ [] && part ≠ "."

/-- A path as it is written. A path that says nothing is a dot. -/
def toText (p : Path) : Text :=
  let t := p.root.toText ++ Text.join "/" p.parts
  if t = [] then "." else t

/-- The path of a location. -/
def ofLocation (l : Location) : Path :=
  ⟨.absolute, l⟩

/-- The last part of a path; it is empty if there is none. -/
def name (p : Path) : Text :=
  p.parts.getLast?.getD []

/-- A name cut before its last dot, unless the dot is its first or its last code point. -/
def cut (name : Text) : Text × Text :=
  let extension := (name.reverse.takeWhile (· ≠ CodePoint.scalar '.')).reverse
  let front := name.take (name.length - extension.length - 1)
  if extension = [] ∨ front = [] then (name, [])
  else (front, CodePoint.scalar '.' :: extension)

/-- The name without its suffix. -/
def stem (p : Path) : Text :=
  (cut p.name).1

/-- The end of the name that tells its format, from the last dot on. -/
def suffix (p : Path) : Text :=
  (cut p.name).2

/-- The path of the folder around. -/
def parent (p : Path) : Path :=
  { p with parts := p.parts.dropLast }

/-- The path with one part more. -/
def child (p : Path) (part : Text) : Path :=
  { p with parts := p.parts ++ [part] }

/-- The path with another suffix. A path without a name can have none. -/
def withSuffix? (p : Path) (suffix : Text) : Option Path :=
  if p.name = [] then none else some (p.parent.child (p.stem ++ suffix))

/-- One step from a location. -/
def step (l : Location) (part : Text) : Location :=
  if part = up then l.dropLast else l ++ [part]

/-- Where a path starts, seen from a location. -/
def start (p : Path) (here : Location) : Location :=
  if p.root = .relative then here else []

/-- The location that a path leads to, seen from a location. A part `..` takes back the part before it,
which is where the path leads as long as no part is a symbolic link. -/
def locate (p : Path) (here : Location) : Location :=
  p.parts.foldl step (p.start here)

end Path

end JqFlow
