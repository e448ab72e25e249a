import JqFlow.Grammar.Scanner
import JqFlow.Text.Visible

/-!
# Why a text is not a query

## Main definitions

- `ParseError`: the causes
- `ParseError.message`: what is reported
- `ParseError.headline`: the first line of the report
-/

namespace JqFlow

/-- Why a text is not a query. -/
inductive ParseError
  /-- There is nothing but white space. -/
  | blank
  /-- A token, or the end, came where the query cannot go on with it. It could have gone on with
  the terminals in `expected`. -/
  | unexpected (token : Token) (expected : List Terminal)
  /-- No expected terminal matches, but a token that is not expected does. -/
  | misplaced (token : Token) (expected : List Terminal) (previous : Option Token)
  /-- No terminal matches. The terminals in `expected` were tried. -/
  | unreadable (source : Text) (place : Position) (expected : List Terminal)
    (previous : Option Token)

namespace ParseError

/-- How many code points of its line are shown on either side of an unreadable place. -/
def contextWidth : Nat := 40

/-- The width of a text from the left margin, with tab stops every eight columns. -/
def printedWidth (t : Text) : Nat :=
  let step : Nat × Nat → CodePoint → Nat × Nat := fun (width, column) c =>
    if c = '\t' then (width + (8 - column % 8), column + (8 - column % 8))
    else if c = '\r' || c = '\n' then (width + 1, 0)
    else (width + 1, column + 1)
  (t.foldl step (0, 0)).1

/-- The part of the line around a place, and a mark below the place. -/
def context (source : Text) (place : Position) : Text :=
  let inLine : CodePoint → Bool := fun c => c ≠ '\n'
  let before : Text := (source.take place.offset).drop (place.offset - contextWidth)
  let before : Text := (before.reverse.takeWhile inLine).reverse
  let after : Text := ((source.drop place.offset).take contextWidth).takeWhile inLine
  before ++ after ++ "\n" ++ List.replicate (printedWidth before) (CodePoint.scalar ' ') ++ "^\n"

/-- A token as it is shown in a report. -/
def showToken (token : Lexeme) : Text :=
  "Token(" ++ Visible.quote token.terminal.name ++ ", " ++ Visible.quote token.text ++ ")"

/-- One of the terminals that were expected, on a line of its own. -/
def showChoice (name : Text) : Text :=
  "\t* " ++ name ++ "\n"

/-- The names of what was expected, in the order of their texts. -/
def showExpected (names : List Text) : Text :=
  "Expected one of: \n" ++ ((names.mergeSort Text.le).map showChoice).flatten

/-- The place of a token in a report. -/
def showPlace (place : Position) : Text :=
  "at line " ++ Text.ofNat place.line ++ ", column " ++ Text.ofNat place.column ++ "."

/-- The part of a report before what was expected. -/
def headline : ParseError → Text
  | blank => "query string cannot be empty"
  | unexpected token _ | misplaced token _ _ =>
    "invalid query: Unexpected token " ++ showToken token.lexeme ++ " " ++ showPlace token.position
  | unreadable source place _ _ =>
    "invalid query: No terminal matches '" ++ (source.drop place.offset).take 1 ++
      "' in the current parser context, at line " ++ Text.ofNat place.line ++ " col " ++
      Text.ofNat place.column

/-- The part of a report from what was expected. -/
def details : ParseError → Text
  | blank => []
  | unexpected _ expected => "\n" ++ showExpected (expected.map Terminal.name)
  | misplaced _ expected previous =>
    "\n" ++ showExpected (expected.map Terminal.display) ++ "Previous tokens: [" ++
      (match previous with
        | some token => showToken token.lexeme
        | none => "None") ++ "]\n"
  | unreadable source place expected previous =>
    "\n\n" ++ context source place ++ showExpected (expected.map Terminal.display) ++
      match previous with
      | some token => "\nPrevious tokens: " ++ showToken token.lexeme ++ "\n"
      | none => []

/-- The whole report. -/
def message (e : ParseError) : Text :=
  e.headline ++ e.details

end ParseError

end JqFlow
