import JqFlow.Query.Basic
import JqFlow.Text.Quoted

/-!
# Queries as text

## Main definitions

- `Query.print`: the source text of a query, with no more parentheses than its operators need
- `Query.unprintable?`: the first part of a query that has no source text
- `Query.format?`: the source text of a query whose every part has one
-/

namespace JqFlow

/-- A part of a query that has no source text. -/
inductive Unprintable
  | operator (op : Operator)
  | node (kind : Text)
  deriving DecidableEq

/-- A name as it may stand for a key without quotes. -/
def Text.isPlainName : Text → Bool
  | [] => false
  | c :: rest =>
    (c.isAsciiLetter || c = '_') && rest.all fun d => d.isAsciiLetter || d.isAsciiDigit || d = '_'

namespace Query

/-- Is this an operation that needs parentheses as the left or right operand of `parent`? It does
if it binds less tightly, and if it binds as tightly on the side to which `parent` does not
group. -/
def needsParens (parent : Operator) (isLeft : Bool) : Query → Bool
  | operation .noop _ _ => false
  | operation op _ _ =>
    op.precedence < parent.precedence ||
      (op.precedence = parent.precedence && isLeft = parent.isRightAssociative)
  | _ => false

/-- Does this query need parentheses where a single term is meant? -/
def isOpen : Query → Bool
  | operation .. | bind .. | label .. => true
  | _ => false

/-- A text in parentheses where `condition` holds. -/
def parenthesize (condition : Bool) (t : Text) : Text :=
  if condition then "(" ++ t ++ ")" else t

mutual

/-- The source text of a query. What has none is left out. -/
def print : Query → Text
  | operation .noop l r =>
    Text.join " " ([printOption l, printOption r].filter fun t => !t.isEmpty)
  | operation .comma l r => printOperand .comma true l ++ ", " ++ printOperand .comma false r
  | operation op l r =>
    printOperand op true l ++ " " ++ op.symbol?.getD [] ++ " " ++ printOperand op false r
  | identity => "."
  | recurse => ".."
  | null => "null"
  | bool true => "true"
  | bool false => "false"
  | number text => text
  | string text => Quoted.quote text
  | format name none => name
  | format name (some text) => name ++ " " ++ Quoted.quote text
  | index (some name) _ _ => "." ++ name
  | index none (some key) _ => "." ++ Quoted.quote key
  | index none none e => ".[" ++ printOption e ++ "]"
  | slice start stop => ".[" ++ printOption start ++ ":" ++ printOption stop ++ "]"
  | call name [] => name
  | call name (arg :: args) => name ++ "(" ++ Text.join "; " (printList (arg :: args)) ++ ")"
  | array body => "[" ++ printOption body ++ "]"
  | object entries => "\x7b" ++ Text.join ", " (printEntries entries) ++ "\x7d"
  | unary op operand => op ++ parenthesize operand.isOpen (print operand)
  | cond test branch elifs otherwise =>
    "if " ++ print test ++ " then " ++ print branch ++ (printElifs elifs).flatten ++
      printElse otherwise ++ " end"
  | attempt body none => "try " ++ parenthesize body.isOpen (print body)
  | attempt body (some handler) =>
    "try " ++ parenthesize body.isOpen (print body) ++
      " catch " ++ parenthesize handler.isOpen (print handler)
  | reduce source name init update =>
    "reduce " ++ parenthesize source.isOpen (print source) ++ " as $" ++ name ++
      " (" ++ print init ++ "; " ++ print update ++ ")"
  | foreach source name init update extract =>
    "foreach " ++ parenthesize source.isOpen (print source) ++ " as $" ++ name ++
      " (" ++ print init ++ "; " ++ print update ++ printExtract extract ++ ")"
  | label name body => "label $" ++ name ++ " | " ++ print body
  | breakTo name => "break $" ++ name
  | var name => "$" ++ name
  | bind source name body =>
    parenthesize source.isOpen (print source) ++ " as $" ++ name ++ " | " ++ print body
  | group body => "(" ++ print body ++ ")"
  | foreign _ => []

/-- An absent query has an empty text. -/
def printOption : Option Query → Text
  | none => []
  | some q => print q

/-- One side of an operation. -/
def printOperand (parent : Operator) (isLeft : Bool) : Option Query → Text
  | none => []
  | some q => parenthesize (q.needsParens parent isLeft) (print q)

/-- The texts of several queries. -/
def printList : List Query → List Text
  | [] => []
  | q :: qs => print q :: printList qs

/-- The texts of the entries of an object. -/
def printEntries : List (Entry Query) → List Text
  | [] => []
  | ⟨key, value, keyExpr⟩ :: entries =>
    (printKey key keyExpr ++ ": " ++ parenthesize value.isOpen (print value)) ::
      printEntries entries

/-- The key of an entry: its expression, or its name, in quotes unless it is a plain one. -/
def printKey (key : Text) : Option Query → Text
  | some e => "(" ++ print e ++ ")"
  | none => if key.isPlainName then key else Quoted.quote key

/-- The further tests of a conditional. -/
def printElifs : List (Query × Query) → List Text
  | [] => []
  | (test, branch) :: rest =>
    (" elif " ++ print test ++ " then " ++ print branch) :: printElifs rest

/-- The last resort of a conditional. -/
def printElse : Option Query → Text
  | none => []
  | some q => " else " ++ print q

/-- What a fold yields on the way. -/
def printExtract : Option Query → Text
  | none => []
  | some q => "; " ++ print q

end

mutual

/-- The first part of a query that has no source text, in the order in which texts are made. This is
the order of the text, but an operation comes after its sides, and what `foreach` goes through after
what is done with it. -/
def unprintable? : Query → Option Unprintable
  | operation op l r =>
    unprintableOption? l <|> unprintableOption? r <|>
      match op with
      | .other _ => some (.operator op)
      | _ => none
  | index (some _) _ _ => none
  | index none (some _) _ => none
  | index none none e => unprintableOption? e
  | slice start stop => unprintableOption? start <|> unprintableOption? stop
  | call _ args => unprintableList? args
  | array body => unprintableOption? body
  | object entries => unprintableEntries? entries
  | unary _ operand => unprintable? operand
  | cond test branch elifs otherwise =>
    unprintable? test <|> unprintable? branch <|> unprintablePairs? elifs <|>
      unprintableOption? otherwise
  | attempt body handler => unprintable? body <|> unprintableOption? handler
  | reduce source _ init update =>
    unprintable? source <|> unprintable? init <|> unprintable? update
  | foreach source _ init update extract =>
    unprintable? init <|> unprintable? update <|> unprintableOption? extract <|>
      unprintable? source
  | label _ body => unprintable? body
  | bind source _ body => unprintable? source <|> unprintable? body
  | group body => unprintable? body
  | foreign _ => some (.node foreignKind)
  | _ => none

/-- An absent query has a source text. -/
def unprintableOption? : Option Query → Option Unprintable
  | none => none
  | some q => unprintable? q

/-- The first part of several queries that has no source text. -/
def unprintableList? : List Query → Option Unprintable
  | [] => none
  | q :: qs => unprintable? q <|> unprintableList? qs

/-- The first part of several entries that has no source text; a computed key comes before its
value. -/
def unprintableEntries? : List (Entry Query) → Option Unprintable
  | [] => none
  | ⟨_, value, keyExpr⟩ :: entries =>
    unprintableOption? keyExpr <|> unprintable? value <|> unprintableEntries? entries

/-- The first part of several pairs that has no source text. -/
def unprintablePairs? : List (Query × Query) → Option Unprintable
  | [] => none
  | (test, branch) :: rest =>
    unprintable? test <|> unprintable? branch <|> unprintablePairs? rest

end

/-- The source text of a query, or the first part that has none. -/
def format? (q : Query) : Except Unprintable Text :=
  match q.unprintable? with
  | some part => .error part
  | none => .ok q.print

end Query

end JqFlow
