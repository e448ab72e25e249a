import JqFlow.Text.Basic

/-!
# The symbols of the query grammar

## Main definitions

- `Terminal`: the kinds of tokens
- `Terminal.literal?`: the spelling of a terminal that has only one
- `Terminal.name`: how a terminal is called in messages
- `Nonterminal`, `Symbol`
-/

namespace JqFlow

/-- The kinds of tokens. -/
inductive Terminal
  /-- A dot with a name: `.name`. -/
  | field
  /-- `$name`. -/
  | varName
  /-- `@name`. -/
  | format
  /-- A name, which may have parts joined by `::`. -/
  | ident
  /-- A number. -/
  | number
  /-- A string literal. -/
  | string
  /-- White space. -/
  | blank
  /-- A comment, from `#` to the end of the line. -/
  | comment
  /-- What follows the last token. -/
  | endOfInput
  | bar
  | comma
  | minus
  | equal
  | less
  | greater
  | plus
  | star
  | slash
  | percent
  | dot
  | openBracket
  | closeBracket
  | colon
  | question
  | semicolon
  | openParen
  | closeParen
  | openBrace
  | closeBrace
  | slashSlash
  | barEqual
  | plusEqual
  | minusEqual
  | starEqual
  | slashEqual
  | percentEqual
  | slashSlashEqual
  | equalEqual
  | bangEqual
  | lessEqual
  | greaterEqual
  | dotDot
  | kwAs
  | kwLabel
  | kwOr
  | kwAnd
  | kwElse
  | kwCatch
  | kwIf
  | kwThen
  | kwEnd
  | kwTry
  | kwReduce
  | kwForeach
  | kwBreak
  | kwElif
  deriving DecidableEq, Inhabited

namespace Terminal

/-- The spelling of a terminal that is always spelled the same. -/
def literal? : Terminal → Option Text
  | .bar => some "|"
  | .comma => some ","
  | .minus => some "-"
  | .equal => some "="
  | .less => some "<"
  | .greater => some ">"
  | .plus => some "+"
  | .star => some "*"
  | .slash => some "/"
  | .percent => some "%"
  | .dot => some "."
  | .openBracket => some "["
  | .closeBracket => some "]"
  | .colon => some ":"
  | .question => some "?"
  | .semicolon => some ";"
  | .openParen => some "("
  | .closeParen => some ")"
  | .openBrace => some "\x7b"
  | .closeBrace => some "\x7d"
  | .slashSlash => some "//"
  | .barEqual => some "|="
  | .plusEqual => some "+="
  | .minusEqual => some "-="
  | .starEqual => some "*="
  | .slashEqual => some "/="
  | .percentEqual => some "%="
  | .slashSlashEqual => some "//="
  | .equalEqual => some "=="
  | .bangEqual => some "!="
  | .lessEqual => some "<="
  | .greaterEqual => some ">="
  | .dotDot => some ".."
  | .kwAs => some "as"
  | .kwLabel => some "label"
  | .kwOr => some "or"
  | .kwAnd => some "and"
  | .kwElse => some "else"
  | .kwCatch => some "catch"
  | .kwIf => some "if"
  | .kwThen => some "then"
  | .kwEnd => some "end"
  | .kwTry => some "try"
  | .kwReduce => some "reduce"
  | .kwForeach => some "foreach"
  | .kwBreak => some "break"
  | .kwElif => some "elif"
  | _ => none

/-- The terminals spelled by signs, longer spellings first. -/
def signs : List Terminal :=
  [slashSlashEqual, slashSlash, barEqual, lessEqual, greaterEqual, dotDot, plusEqual, minusEqual,
    starEqual, slashEqual, percentEqual, equalEqual, bangEqual, colon, comma, dot, equal,
    openBrace, less, openParen, openBracket, minus, greater, percent, plus, question, closeBrace,
    closeParen, closeBracket, semicolon, slash, star, bar]

/-- The terminals spelled by words, longer spellings first. -/
def keywords : List Terminal :=
  [kwForeach, kwReduce, kwBreak, kwCatch, kwLabel, kwElif, kwElse, kwThen, kwAnd, kwEnd, kwTry,
    kwAs, kwIf, kwOr]

/-- The terminals that stand between tokens and are skipped. -/
def ignored : List Terminal :=
  [blank, comment]

/-- The name of a terminal. -/
def name : Terminal → Text
  | .field => "FIELD"
  | .varName => "VARIABLE"
  | .format => "FORMAT"
  | .ident => "IDENT"
  | .number => "NUMBER"
  | .string => "STRING"
  | .blank => "WS"
  | .comment => "COMMENT"
  | .endOfInput => "$END"
  | .bar => "VBAR"
  | .comma => "COMMA"
  | .minus => "MINUS"
  | .equal => "EQUAL"
  | .less => "LESSTHAN"
  | .greater => "MORETHAN"
  | .plus => "PLUS"
  | .star => "STAR"
  | .slash => "SLASH"
  | .percent => "PERCENT"
  | .dot => "DOT"
  | .openBracket => "LSQB"
  | .closeBracket => "RSQB"
  | .colon => "COLON"
  | .question => "QMARK"
  | .semicolon => "SEMICOLON"
  | .openParen => "LPAR"
  | .closeParen => "RPAR"
  | .openBrace => "LBRACE"
  | .closeBrace => "RBRACE"
  | .slashSlash => "__ANON_0"
  | .barEqual => "__ANON_1"
  | .plusEqual => "__ANON_2"
  | .minusEqual => "__ANON_3"
  | .starEqual => "__ANON_4"
  | .slashEqual => "__ANON_5"
  | .percentEqual => "__ANON_6"
  | .slashSlashEqual => "__ANON_7"
  | .equalEqual => "__ANON_8"
  | .bangEqual => "__ANON_9"
  | .lessEqual => "__ANON_10"
  | .greaterEqual => "__ANON_11"
  | .dotDot => "__ANON_12"
  | .kwAs => "AS"
  | .kwLabel => "LABEL"
  | .kwOr => "OR"
  | .kwAnd => "AND"
  | .kwElse => "ELSE"
  | .kwCatch => "CATCH"
  | .kwIf => "IF"
  | .kwThen => "THEN"
  | .kwEnd => "END"
  | .kwTry => "TRY"
  | .kwReduce => "REDUCE"
  | .kwForeach => "FOREACH"
  | .kwBreak => "BREAK"
  | .kwElif => "ELIF"

/-- Has the terminal no name but a number? -/
def isUnnamed (terminal : Terminal) : Bool :=
  List.isPrefixOf ("__" : Text) terminal.name

/-- How a terminal is shown to a reader: by its name, or by its spelling in quotes if it has no
name but a number. -/
def display (terminal : Terminal) : Text :=
  if terminal.isUnnamed then "\"" ++ terminal.literal?.getD [] ++ "\"" else terminal.name

end Terminal

/-- The phrases of the grammar. -/
inductive Nonterminal
  | start
  | pipe
  | comma
  | alt
  | assign
  | orExpr
  | andExpr
  | compare
  | additive
  | multiplicative
  | unary
  | assignSym
  | cmpSym
  | addSym
  | mulSym
  | suffixed
  | primary
  | moreArgs
  | elifs
  | elif
  | object
  | moreEntries
  | entry
  | objValue
  deriving DecidableEq, Inhabited

/-- A symbol of the grammar. -/
inductive Symbol
  | t (terminal : Terminal)
  | n (nonterminal : Nonterminal)
  deriving DecidableEq, Inhabited

end JqFlow
