import JqFlow.Grammar.Automaton
import JqFlow.Grammar.ParseError

/-!
# Reading a query

The automaton runs over the tokens of a query and builds its derivation; the query is the meaning of
the derivation. Before a terminal it finishes productions until it can shift the terminal.

## Main definitions

- `Stack`: the derivations of what has been read, with the states they led to
- `Stack.feed`: one terminal more
- `Stack.acceptable`: the terminals that can come next
- `derive`: the derivation of a query text
- `Query.parse`: the query of a query text

## Design notes

Finishing a production either shortens the stack or puts a symbol of greater height on its top, so
the fuel of `Stack.feed`, which counts both, is never used up.
-/

namespace JqFlow

open Automaton (State)

/-- A symbol that has been derived, and the state it led to. -/
structure Frame where
  symbol : Symbol
  derivation : Derivation symbol
  state : State

/-- What has been read, last symbol first. -/
abbrev Stack := List Frame

/-- The derivation of a whole query. -/
abbrev QueryDerivation := Derivation (.n .start)

/-- The derivations of a sequence of symbols, if these are the symbols of the frames. -/
def Forest.ofFrames? : (ss : List Symbol) → List Frame → Option (Forest ss)
  | [], [] => some .nil
  | s :: ss, f :: fs =>
    if h : f.symbol = s then (ofFrames? ss fs).map fun rest => .cons (h ▸ f.derivation) rest
    else none
  | _, _ => none

/-- What comes of one terminal more: it is read, or the query ends with it, or the query cannot go
on with it. -/
inductive Fed
  | shifted (stack : Stack)
  | accepted (derivation : QueryDerivation)
  | refused (stack : Stack)

namespace Stack

/-- The state that was reached last. -/
def state : Stack → State
  | [] => 0
  | f :: _ => f.state

/-- The row of the state that was reached last. -/
def row (stack : Stack) : Automaton.Row :=
  Automaton.row stack.state

/-- The stack after a production is finished: its parts make one symbol. -/
def finish? (p : Production) (stack : Stack) : Option Stack := do
  let n := p.rhs.length
  let children ← Forest.ofFrames? p.rhs (stack.take n).reverse
  let below : Stack := stack.drop n
  let next ← below.row.gotos.lookup p.lhs
  return ⟨.n p.lhs, .node p children, next⟩ :: below

/-- The derivation of a query, if that is all there is. -/
def whole? : Stack → Option QueryDerivation
  | [⟨.n .start, derivation, _⟩] => some derivation
  | _ => none

/-- One terminal more, after finishing what has to be finished before it. -/
def feedWithin : Nat → Lexeme → Stack → Fed
  | 0, _, stack => .refused stack
  | fuel + 1, lexeme, stack =>
    match stack.row.shifts.lookup lexeme.terminal with
    | some next => .shifted (⟨.t lexeme.terminal, .leaf _ lexeme.text, next⟩ :: stack)
    | none =>
      match stack.row.finish? lexeme.terminal with
      | none => .refused stack
      | some p =>
        match finish? p stack with
        | none => .refused stack
        | some after =>
          match whole? after with
          | some derivation =>
            if lexeme.terminal = .endOfInput then .accepted derivation
            else feedWithin fuel lexeme after
          | none => feedWithin fuel lexeme after

/-- More than the number of productions that can be finished in a row. -/
def finishBound (stack : Stack) : Nat :=
  (Symbol.maxHeight + 1) * (stack.length + 1) + 1

/-- One terminal more. -/
def feed (lexeme : Lexeme) (stack : Stack) : Fed :=
  feedWithin (finishBound stack) lexeme stack

/-- Can the query go on with the given terminal? -/
def accepts (stack : Stack) (terminal : Terminal) : Bool :=
  match stack.feed ⟨terminal, []⟩ with
  | .refused _ => false
  | _ => true

/-- The terminals with which the query can go on. -/
def acceptable (stack : Stack) : List Terminal :=
  stack.row.expected.filter stack.accepts

/-- The terminals that are tried on the text that comes next. A keyword is tried on its own only
where no name can stand. -/
def tried (stack : Stack) : List Terminal :=
  let expected := stack.row.expected
  expected.filter fun terminal =>
    terminal ≠ .endOfInput && !(expected.contains .ident && Terminal.keywords.contains terminal)

end Stack

/-- Why nothing that is expected matches at a place: there is a token that is not expected, or none
at all. -/
def ParseError.atStuck (source : Text) (stack : Stack) (previous : Option Token)
    (place : Cursor) : ParseError :=
  match scan? (fun _ => true) place.rest with
  | some lexeme => .misplaced ⟨lexeme, place.position⟩ stack.acceptable previous
  | none => .unreadable source place.position stack.tried previous

/-- The rest of a run of the automaton. The fuel bounds the number of tokens. -/
def deriveFrom (source : Text) :
    Nat → Stack → Option Token → Cursor → Except ParseError QueryDerivation
  | 0, stack, previous, cursor => .error (.atStuck source stack previous cursor)
  | fuel + 1, stack, previous, cursor =>
    match cursor.next stack.row.expects with
    | .stuck place => .error (.atStuck source stack previous place)
    | .atEnd =>
      let token : Token := ⟨⟨.endOfInput, []⟩, (previous.map Token.position).getD .start⟩
      match stack.feed token.lexeme with
      | .accepted derivation => .ok derivation
      | .shifted after | .refused after => .error (.unexpected token after.acceptable)
    | .token token after =>
      match stack.feed token.lexeme with
      | .shifted stack => deriveFrom source fuel stack (some token) after
      | .accepted derivation => .ok derivation
      | .refused stack => .error (.unexpected token stack.acceptable)

/-- The derivation of a query text. -/
def derive (source : Text) : Except ParseError QueryDerivation :=
  deriveFrom source (source.length + 1) [] none ⟨.start, source⟩

/-- The query of a query text. -/
def Query.parse (source : Text) : Except ParseError Query :=
  if source.isBlank then .error .blank
  else (derive source).map Derivation.eval

end JqFlow
