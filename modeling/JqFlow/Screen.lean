import JqFlow.Text.Basic

/-!
# Screens

What the program shows on a screen is markup, alone or in a frame, a table or a tree. Markup is text
with tags in square brackets, which set a style until they are closed. How a screen lays it out, and
which markup it refuses, is up to the screen.

## Main definitions

- `Block`: the lines that something takes on a screen
- `Column`, `Table`, `Tree`: what is shown besides lines of text
- `Screen`: what is shown for markup, frames, tables and trees
- `Screen.RefusesUnmatched`: a closing tag has to match an open one

## Design notes

The program is run on any screen, and `Screen.RefusesUnmatched` is all that is asked of one. A style
can have several names, so two tags with different names can match; it is asked only about names in
small letters inside of green, of which no other name in small letters is a name.
-/

namespace JqFlow

/-- Markup that cannot be shown. -/
inductive MarkupError
  /-- A tag closes nothing. -/
  | tag (message : Text)
  /-- A tag has a colour that cannot be read. -/
  | component (message : Text)
  deriving DecidableEq

/-- A markup error in words. -/
def MarkupError.message : MarkupError → Text
  | tag message | component message => message

/-- The lines that something takes on a screen. -/
abbrev Block := Except MarkupError (List Text)

/-- On which side lines stand, if they are filled up at all. -/
inductive Alignment
  | ragged
  | left
  | right
  deriving DecidableEq

/-- A column: its title, and on which side its cells stand. -/
structure Column where
  title : Text
  alignment : Alignment

/-- Columns, and rows with a cell for every column; titles and cells are markup. -/
structure Table where
  columns : List Column
  rows : List (List Text)

/-- A tree of labels, which are markup. -/
inductive Tree
  | node (label : Text) (children : List Tree)

/-- What a screen shows. -/
structure Screen where
  /-- The markup for a text as it is. -/
  escape : Text → Text
  /-- An empty line. -/
  blank : Block
  /-- Lines of markup. -/
  markup : Text → Block
  /-- Markup in a frame with a title, which is markup as well. -/
  framed (title markup : Text) : Block
  table : Table → Block
  tree : Tree → Block

/-- One of the letters `a` to `z`. -/
def CodePoint.isSmallLetter : CodePoint → Bool
  | scalar c => c.isLower
  | surrogate _ => false

/-- The first bracket in a text opens a closing tag, named by small letters other than `opened`. -/
def Text.ClosesOther (t opened : Text) : Prop :=
  ∃ before name after : Text, t = before ++ "[/" ++ name ++ "]" ++ after ∧
    .scalar '[' ∉ before ∧ before.getLast? ≠ some (.scalar '\\') ∧
    name ≠ [] ∧ (∀ c ∈ name, c.isSmallLetter) ∧ name ≠ opened

/-- Markup cannot be shown if a tag in it closes one that is not open. -/
def Screen.RefusesUnmatched (screen : Screen) : Prop :=
  ∀ t : Text, t.ClosesOther "green" → ∃ e, screen.markup ("[green]" ++ t ++ "[/green]") = .error e

end JqFlow
