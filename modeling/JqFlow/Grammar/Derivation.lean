import JqFlow.Grammar.Meaning

/-!
# Derivations

A derivation of a symbol is a tree whose every branching is a production; the symbols of the
children are those of the right-hand side by the type of the tree, so a derivation cannot be wrong.

## Main definitions

- `Lexeme`: a token, as the grammar sees it
- `Derivation`, `Forest`: derivations of a symbol and of a sequence of symbols
- `Derivation.yield`: the tokens that are derived
- `Derivation.eval`: the meaning of what is derived
-/

namespace JqFlow

/-- A token as the grammar sees it: its terminal and its text. -/
structure Lexeme where
  terminal : Terminal
  text : Text
  deriving DecidableEq, Inhabited

mutual

/-- The derivations of a symbol. -/
inductive Derivation : Symbol → Type
  | leaf (terminal : Terminal) (text : Text) : Derivation (.t terminal)
  | node (p : Production) (children : Forest p.rhs) : Derivation (.n p.lhs)

/-- The derivations of a sequence of symbols, one for each. -/
inductive Forest : List Symbol → Type
  | nil : Forest []
  | cons {s : Symbol} {ss : List Symbol} (first : Derivation s) (rest : Forest ss) :
    Forest (s :: ss)

end

mutual

/-- The tokens that a derivation derives, in order. -/
def Derivation.yield {s : Symbol} : Derivation s → List Lexeme
  | .leaf terminal text => [⟨terminal, text⟩]
  | .node _ children => children.yield

/-- The tokens that a sequence of derivations derives, in order. -/
def Forest.yield {ss : List Symbol} : Forest ss → List Lexeme
  | .nil => []
  | .cons first rest => first.yield ++ rest.yield

end

mutual

/-- The meaning of what is derived. -/
def Derivation.eval {s : Symbol} : Derivation s → s.Value
  | .leaf _ text => text
  | .node p children => p.action children.eval

/-- The meanings of a sequence of derivations. -/
def Forest.eval {ss : List Symbol} : Forest ss → Symbol.Values ss
  | .nil => ()
  | .cons first rest => (first.eval, rest.eval)

end

end JqFlow
