import JqFlow.Grammar.Symbol

/-!
# The rules of the query grammar

Every production derives at least one symbol, and one that derives a single symbol derives one of
less height, so no phrase derives itself alone.

## Main definitions

- `Production`: the productions
- `Production.lhs`, `Production.rhs`: what a production derives from what
- `Symbol.height`: how far a symbol stands above the tokens
-/

namespace JqFlow

/-- The productions of the grammar. -/
inductive Production
  | start
  | pipeOfComma
  | pipeOp
  | bind
  | label
  | commaOfAlt
  | commaOp
  | altOfAssign
  | altOp
  | assignOfOr
  | assignOp
  | orOfAnd
  | orOp
  | andOfCompare
  | andOp
  | compareOfAdditive
  | compareOp
  | additiveOfMultiplicative
  | additiveOp
  | multiplicativeOfUnary
  | multiplicativeOp
  | unaryOfSuffixed
  | negate
  | symAssign
  | symModify
  | symUpdateAdd
  | symUpdateSub
  | symUpdateMul
  | symUpdateDiv
  | symUpdateMod
  | symUpdateAlt
  | symEq
  | symNe
  | symLt
  | symLe
  | symGt
  | symGe
  | symAdd
  | symSub
  | symMul
  | symDiv
  | symMod
  | suffixedOfPrimary
  | suffixField
  | suffixKey
  | suffixIterate
  | suffixIndex
  | suffixSlice
  | suffixSliceFrom
  | suffixSliceTo
  | suffixSliceAll
  | suffixTry
  | identity
  | recurse
  | field
  | quotedField
  | number
  | string
  | format
  | formatString
  | varRef
  | group
  | arrayEmpty
  | array
  | primaryOfObject
  | bareName
  | call
  | callMore
  | condThen
  | condElse
  | condElif
  | condElifElse
  | attempt
  | attemptCatch
  | reduce
  | foreach
  | foreachExtract
  | breakTo
  | argsOne
  | argsMore
  | elifsOne
  | elifsMore
  | elifBranch
  | objectEmpty
  | objectOne
  | objectMore
  | entriesOne
  | entriesMore
  | entryName
  | entryString
  | entryComputed
  | entryField
  | entryKey
  | entryVariable
  | valueOfUnary
  | valuePipe
  deriving DecidableEq, Inhabited

namespace Production

open JqFlow.Symbol

/-- The phrase that a production derives, and the symbols it derives it from. -/
def rule : Production → Nonterminal × List Symbol
  | .start => (.start, [n .pipe])
  | .pipeOfComma => (.pipe, [n .comma])
  | .pipeOp => (.pipe, [n .comma, t .bar, n .pipe])
  | .bind => (.pipe, [n .suffixed, t .kwAs, t .varName, t .bar, n .pipe])
  | .label => (.pipe, [t .kwLabel, t .varName, t .bar, n .pipe])
  | .commaOfAlt => (.comma, [n .alt])
  | .commaOp => (.comma, [n .comma, t .comma, n .alt])
  | .altOfAssign => (.alt, [n .assign])
  | .altOp => (.alt, [n .assign, t .slashSlash, n .alt])
  | .assignOfOr => (.assign, [n .orExpr])
  | .assignOp => (.assign, [n .orExpr, n .assignSym, n .orExpr])
  | .orOfAnd => (.orExpr, [n .andExpr])
  | .orOp => (.orExpr, [n .orExpr, t .kwOr, n .andExpr])
  | .andOfCompare => (.andExpr, [n .compare])
  | .andOp => (.andExpr, [n .andExpr, t .kwAnd, n .compare])
  | .compareOfAdditive => (.compare, [n .additive])
  | .compareOp => (.compare, [n .additive, n .cmpSym, n .additive])
  | .additiveOfMultiplicative => (.additive, [n .multiplicative])
  | .additiveOp => (.additive, [n .additive, n .addSym, n .multiplicative])
  | .multiplicativeOfUnary => (.multiplicative, [n .unary])
  | .multiplicativeOp => (.multiplicative, [n .multiplicative, n .mulSym, n .unary])
  | .unaryOfSuffixed => (.unary, [n .suffixed])
  | .negate => (.unary, [t .minus, n .suffixed])
  | .symAssign => (.assignSym, [t .equal])
  | .symModify => (.assignSym, [t .barEqual])
  | .symUpdateAdd => (.assignSym, [t .plusEqual])
  | .symUpdateSub => (.assignSym, [t .minusEqual])
  | .symUpdateMul => (.assignSym, [t .starEqual])
  | .symUpdateDiv => (.assignSym, [t .slashEqual])
  | .symUpdateMod => (.assignSym, [t .percentEqual])
  | .symUpdateAlt => (.assignSym, [t .slashSlashEqual])
  | .symEq => (.cmpSym, [t .equalEqual])
  | .symNe => (.cmpSym, [t .bangEqual])
  | .symLt => (.cmpSym, [t .less])
  | .symLe => (.cmpSym, [t .lessEqual])
  | .symGt => (.cmpSym, [t .greater])
  | .symGe => (.cmpSym, [t .greaterEqual])
  | .symAdd => (.addSym, [t .plus])
  | .symSub => (.addSym, [t .minus])
  | .symMul => (.mulSym, [t .star])
  | .symDiv => (.mulSym, [t .slash])
  | .symMod => (.mulSym, [t .percent])
  | .suffixedOfPrimary => (.suffixed, [n .primary])
  | .suffixField => (.suffixed, [n .suffixed, t .field])
  | .suffixKey => (.suffixed, [n .suffixed, t .dot, t .string])
  | .suffixIterate => (.suffixed, [n .suffixed, t .openBracket, t .closeBracket])
  | .suffixIndex => (.suffixed, [n .suffixed, t .openBracket, n .pipe, t .closeBracket])
  | .suffixSlice => (.suffixed,
      [n .suffixed, t .openBracket, n .pipe, t .colon, n .pipe, t .closeBracket])
  | .suffixSliceFrom => (.suffixed,
      [n .suffixed, t .openBracket, n .pipe, t .colon, t .closeBracket])
  | .suffixSliceTo => (.suffixed, [n .suffixed, t .openBracket, t .colon, n .pipe, t .closeBracket])
  | .suffixSliceAll => (.suffixed, [n .suffixed, t .openBracket, t .colon, t .closeBracket])
  | .suffixTry => (.suffixed, [n .suffixed, t .question])
  | .identity => (.primary, [t .dot])
  | .recurse => (.primary, [t .dotDot])
  | .field => (.primary, [t .field])
  | .quotedField => (.primary, [t .dot, t .string])
  | .number => (.primary, [t .number])
  | .string => (.primary, [t .string])
  | .format => (.primary, [t .format])
  | .formatString => (.primary, [t .format, t .string])
  | .varRef => (.primary, [t .varName])
  | .group => (.primary, [t .openParen, n .pipe, t .closeParen])
  | .arrayEmpty => (.primary, [t .openBracket, t .closeBracket])
  | .array => (.primary, [t .openBracket, n .pipe, t .closeBracket])
  | .primaryOfObject => (.primary, [n .object])
  | .bareName => (.primary, [t .ident])
  | .call => (.primary, [t .ident, t .openParen, n .pipe, t .closeParen])
  | .callMore => (.primary, [t .ident, t .openParen, n .pipe, n .moreArgs, t .closeParen])
  | .condThen => (.primary, [t .kwIf, n .pipe, t .kwThen, n .pipe, t .kwEnd])
  | .condElse => (.primary, [t .kwIf, n .pipe, t .kwThen, n .pipe, t .kwElse, n .pipe, t .kwEnd])
  | .condElif => (.primary, [t .kwIf, n .pipe, t .kwThen, n .pipe, n .elifs, t .kwEnd])
  | .condElifElse => (.primary,
      [t .kwIf, n .pipe, t .kwThen, n .pipe, n .elifs, t .kwElse, n .pipe, t .kwEnd])
  | .attempt => (.primary, [t .kwTry, n .primary])
  | .attemptCatch => (.primary, [t .kwTry, n .primary, t .kwCatch, n .primary])
  | .reduce => (.primary,
      [t .kwReduce, n .suffixed, t .kwAs, t .varName, t .openParen, n .pipe, t .semicolon, n .pipe,
        t .closeParen])
  | .foreach => (.primary,
      [t .kwForeach, n .suffixed, t .kwAs, t .varName, t .openParen, n .pipe, t .semicolon, n .pipe,
        t .closeParen])
  | .foreachExtract => (.primary,
      [t .kwForeach, n .suffixed, t .kwAs, t .varName, t .openParen, n .pipe, t .semicolon, n .pipe,
        t .semicolon, n .pipe, t .closeParen])
  | .breakTo => (.primary, [t .kwBreak, t .varName])
  | .argsOne => (.moreArgs, [t .semicolon, n .pipe])
  | .argsMore => (.moreArgs, [n .moreArgs, t .semicolon, n .pipe])
  | .elifsOne => (.elifs, [n .elif])
  | .elifsMore => (.elifs, [n .elifs, n .elif])
  | .elifBranch => (.elif, [t .kwElif, n .pipe, t .kwThen, n .pipe])
  | .objectEmpty => (.object, [t .openBrace, t .closeBrace])
  | .objectOne => (.object, [t .openBrace, n .entry, t .closeBrace])
  | .objectMore => (.object, [t .openBrace, n .entry, n .moreEntries, t .closeBrace])
  | .entriesOne => (.moreEntries, [t .comma, n .entry])
  | .entriesMore => (.moreEntries, [n .moreEntries, t .comma, n .entry])
  | .entryName => (.entry, [t .ident, t .colon, n .objValue])
  | .entryString => (.entry, [t .string, t .colon, n .objValue])
  | .entryComputed => (.entry, [t .openParen, n .pipe, t .closeParen, t .colon, n .objValue])
  | .entryField => (.entry, [t .ident])
  | .entryKey => (.entry, [t .string])
  | .entryVariable => (.entry, [t .varName])
  | .valueOfUnary => (.objValue, [n .unary])
  | .valuePipe => (.objValue, [n .objValue, t .bar, n .unary])

/-- The phrase that a production derives. -/
abbrev lhs (p : Production) : Nonterminal :=
  p.rule.1

/-- The symbols that a production derives its phrase from. -/
abbrev rhs (p : Production) : List Symbol :=
  p.rule.2

end Production

/-- How far a phrase stands above the tokens. The operators climb from the tightest to the
loosest. -/
def Nonterminal.height : Nonterminal → Nat
  | assignSym | cmpSym | addSym | mulSym | object | elif | entry | moreArgs | moreEntries => 1
  | primary | elifs => 2
  | suffixed => 3
  | unary => 4
  | multiplicative | objValue => 5
  | additive => 6
  | compare => 7
  | andExpr => 8
  | orExpr => 9
  | assign => 10
  | alt => 11
  | comma => 12
  | pipe => 13
  | start => 14

/-- How far a symbol stands above the tokens; a token stands at 0. -/
def Symbol.height : Symbol → Nat
  | t _ => 0
  | n x => x.height

/-- The height of the whole grammar. -/
def Symbol.maxHeight : Nat := 14

theorem Symbol.height_le_maxHeight (s : Symbol) : s.height ≤ maxHeight := by
  cases s with
  | t _ => simp [height]
  | n x => cases x <;> simp [height, Nonterminal.height, maxHeight]

/-- A production that derives a single symbol derives one of less height. -/
theorem Production.height_lt_of_single (p : Production) {s : Symbol} (h : p.rhs = [s]) :
    s.height < (Symbol.n p.lhs).height := by
  cases p <;> simp_all [rhs, lhs, rule, Symbol.height] <;> subst h <;>
    decide

end JqFlow
