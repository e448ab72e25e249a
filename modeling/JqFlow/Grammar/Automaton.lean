import JqFlow.Grammar.Rule

/-!
# The automaton of the query grammar

The LALR(1) automaton. A state stands for the productions that may be under way and how far each of
them has come; a row has what a state does at each terminal and where it goes with each phrase. No
state has more than one production to finish. Where a terminal may be shifted it is, so `catch`
belongs to the nearest `try`.

## Main definitions

- `Automaton.Row`: what one state does
- `Automaton.rows`: the rows of all states
- `Automaton.row`: the row of a state

## Design notes

States are numbered in the order in which they are first reached from the initial state 0. Rows
share the lists of what may come where a phrase of some kind begins. A row is only unfolded where
facts about the table are checked.
-/

namespace JqFlow.Automaton

/-- The number of a state. -/
abbrev State := Nat

/-- What one state does: the terminals it shifts, where it goes with a phrase, and the production
that it finishes, with the terminals before which it does. -/
structure Row where
  shifts : List (Terminal × State)
  gotos : List (Nonterminal × State)
  finish : Option (Production × List Terminal)

/-! ### What may follow -/

open Terminal

/-- What may come after the whole query. -/
def atEnd : List Terminal :=
  [endOfInput]

/-- What may come after a pipe. -/
def afterPipe : List Terminal :=
  [endOfInput, closeBracket, colon, semicolon, closeParen, kwElse, kwThen, kwEnd, kwElif]

/-- What may come after a comma-separated sequence. -/
def afterComma : List Terminal :=
  afterPipe ++ [bar, comma]

/-- What may come after an assignment. -/
def afterAssign : List Terminal :=
  afterComma ++ [slashSlash]

/-- What may come after a disjunction. -/
def afterOr : List Terminal :=
  afterAssign ++ [equal, barEqual, plusEqual, minusEqual, starEqual, slashEqual, percentEqual,
    slashSlashEqual, kwOr]

/-- What may come after a conjunction. -/
def afterAnd : List Terminal :=
  afterOr ++ [kwAnd]

/-- What may come after a sum. -/
def afterAdditive : List Terminal :=
  afterAnd ++ [minus, less, greater, plus, equalEqual, bangEqual, lessEqual, greaterEqual]

/-- What may come after a product. -/
def afterMultiplicative : List Terminal :=
  afterAdditive ++ [star, slash, percent]

/-- What may come after a signed term. -/
def afterUnary : List Terminal :=
  afterMultiplicative ++ [closeBrace]

/-- What may come after a term with its suffixes. -/
def afterSuffixed : List Terminal :=
  afterUnary ++ [dot, openBracket, question, kwAs, field]

/-- What may come after a term. -/
def afterPrimary : List Terminal :=
  afterSuffixed ++ [kwCatch]

/-- What may come after an operator sign. -/
def afterSign : List Terminal :=
  [minus, dot, openBracket, openParen, openBrace, dotDot, kwIf, kwTry, kwReduce, kwForeach,
    kwBreak, field, varName, format, ident, number, string]

/-- What may come after an entry of an object. -/
def afterEntry : List Terminal :=
  [comma, closeBrace]

/-- What may come after the value of an entry. -/
def afterObjValue : List Terminal :=
  [bar, comma, closeBrace]

/-- What may come after an argument of a call. -/
def afterArg : List Terminal :=
  [semicolon, closeParen]

/-- What may come after a branch of a conditional. -/
def afterElif : List Terminal :=
  [kwElse, kwEnd, kwElif]

/-! ### How phrases begin -/

/-- The terminals that a term begins with. -/
def primaryShifts : List (Terminal × State) :=
  [(.dot, 9), (.dotDot, 10), (.field, 11), (.number, 12), (.string, 13), (.format, 14),
    (.varName, 15), (.openParen, 16), (.openBracket, 17), (.ident, 19), (.kwIf, 20), (.kwTry, 21),
    (.kwReduce, 22), (.kwForeach, 23), (.kwBreak, 24), (.openBrace, 26)]

/-- The terminals that a signed term begins with. -/
def unaryShifts : List (Terminal × State) :=
  (.minus, 32) :: primaryShifts

/-- The terminals that a pipe begins with. -/
def pipeShifts : List (Terminal × State) :=
  (.kwLabel, 5) :: unaryShifts

/-- The terminals that a suffix begins with. -/
def suffixShifts : List (Terminal × State) :=
  [(.field, 36), (.dot, 37), (.openBracket, 38), (.question, 39)]

/-- Where to go with a term, and with what a term may consist of. -/
def primaryGotos (target : State) : List (Nonterminal × State) :=
  [(.primary, target), (.object, 18)]

/-- Where to go with a term with its suffixes, and with what it may consist of. -/
def suffixedGotos (target : State) : List (Nonterminal × State) :=
  (.suffixed, target) :: primaryGotos 7

/-- Where to go with a signed term, and with what it may consist of. -/
def unaryGotos (target : State) : List (Nonterminal × State) :=
  (.unary, target) :: suffixedGotos 87

/-- Where to go with a product, and with what it may consist of. -/
def multiplicativeGotos (target : State) : List (Nonterminal × State) :=
  (.multiplicative, target) :: unaryGotos 31

/-- Where to go with a sum, and with what it may consist of. -/
def additiveGotos (target : State) : List (Nonterminal × State) :=
  (.additive, target) :: multiplicativeGotos 30

/-- Where to go with a comparison, and with what it may consist of. -/
def compareGotos (target : State) : List (Nonterminal × State) :=
  (.compare, target) :: additiveGotos 29

/-- Where to go with a conjunction, and with what it may consist of. -/
def andGotos (target : State) : List (Nonterminal × State) :=
  (.andExpr, target) :: compareGotos 28

/-- Where to go with a disjunction, and with what it may consist of. -/
def orGotos (target : State) : List (Nonterminal × State) :=
  (.orExpr, target) :: andGotos 27

/-- Where to go with an alternative, and with what it may consist of. -/
def altGotos (target : State) : List (Nonterminal × State) :=
  (.alt, target) :: (.assign, 8) :: orGotos 25

/-- Where to go with a pipe, and with what it may consist of. A term with its suffixes may be the
source of a binding here. -/
def pipeGotos (target : State) : List (Nonterminal × State) :=
  [(.pipe, target), (.comma, 3), (.alt, 6), (.assign, 8), (.orExpr, 25), (.andExpr, 27),
    (.compare, 28), (.additive, 29), (.multiplicative, 30), (.unary, 31), (.suffixed, 4)] ++
    primaryGotos 7

/-- Where to go with the value of an entry, and with what it may consist of. -/
def objValueGotos (target : State) : List (Nonterminal × State) :=
  (.objValue, target) :: unaryGotos 131

/-- The row of a state in which a production is finished and nothing else is under way. -/
def done (p : Production) (before : List Terminal) : Row :=
  ⟨[], [], some (p, before)⟩

/-- The row of a state in which no production is finished. -/
def under (shifts : List (Terminal × State)) (gotos : List (Nonterminal × State)) : Row :=
  ⟨shifts, gotos, none⟩

/-- The rows of the states, in the order of their numbers. -/
def rows : Array Row := #[
  under pipeShifts ((.start, 1) :: pipeGotos 2),
  under [] [],
  done .start atEnd,
  ⟨[(.bar, 33), (.comma, 34)], [], some (.pipeOfComma, afterPipe)⟩,
  ⟨((.kwAs, 35) :: suffixShifts), [], some (.unaryOfSuffixed, afterMultiplicative)⟩,
  under [(.varName, 40)] [],
  done .commaOfAlt afterComma,
  done .suffixedOfPrimary afterSuffixed,
  ⟨[(.slashSlash, 41)], [], some (.altOfAssign, afterComma)⟩,
  ⟨[(.string, 42)], [], some (.identity, afterPrimary)⟩,
  done .recurse afterPrimary,
  done .field afterPrimary,
  done .number afterPrimary,
  done .string afterPrimary,
  ⟨[(.string, 43)], [], some (.format, afterPrimary)⟩,
  done .varRef afterPrimary,
  under pipeShifts (pipeGotos 44),
  under ((.closeBracket, 45) :: pipeShifts) (pipeGotos 46),
  done .primaryOfObject afterPrimary,
  ⟨[(.openParen, 47)], [], some (.bareName, afterPrimary)⟩,
  under pipeShifts (pipeGotos 48),
  under primaryShifts (primaryGotos 49),
  under primaryShifts (suffixedGotos 50),
  under primaryShifts (suffixedGotos 51),
  under [(.varName, 52)] [],
  ⟨[(.kwOr, 54), (.equal, 55), (.barEqual, 56), (.plusEqual, 57), (.minusEqual, 58),
    (.starEqual, 59), (.slashEqual, 60), (.percentEqual, 61), (.slashSlashEqual, 62)],
    [(.assignSym, 53)], some (.assignOfOr, afterAssign)⟩,
  under [(.closeBrace, 63), (.ident, 65), (.string, 66), (.openParen, 67), (.varName,
    68)] [(.entry, 64)],
  ⟨[(.kwAnd, 69)], [], some (.orOfAnd, afterOr)⟩,
  done .andOfCompare afterAnd,
  ⟨[(.equalEqual, 72), (.bangEqual, 73), (.less, 74), (.lessEqual, 75), (.greater, 76),
    (.greaterEqual, 77), (.plus, 78), (.minus, 79)],
    [(.cmpSym, 70), (.addSym, 71)], some (.compareOfAdditive, afterAnd)⟩,
  ⟨[(.star, 81), (.slash, 82), (.percent, 83)], [(.mulSym, 80)],
    some (.additiveOfMultiplicative, afterAdditive)⟩,
  done .multiplicativeOfUnary afterMultiplicative,
  under primaryShifts (suffixedGotos 84),
  under pipeShifts (pipeGotos 85),
  under unaryShifts (altGotos 86),
  under [(.varName, 88)] [],
  done .suffixField afterSuffixed,
  under [(.string, 89)] [],
  under ((.closeBracket, 90) :: (.colon, 92) :: pipeShifts) (pipeGotos 91),
  done .suffixTry afterSuffixed,
  under [(.bar, 93)] [],
  under unaryShifts (altGotos 94),
  done .quotedField afterPrimary,
  done .formatString afterPrimary,
  under [(.closeParen, 95)] [],
  done .arrayEmpty afterPrimary,
  under [(.closeBracket, 96)] [],
  under pipeShifts (pipeGotos 97),
  under [(.kwThen, 98)] [],
  ⟨[(.kwCatch, 99)], [], some (.attempt, afterPrimary)⟩,
  under ((.kwAs, 100) :: suffixShifts) [],
  under ((.kwAs, 101) :: suffixShifts) [],
  done .breakTo afterPrimary,
  under unaryShifts (orGotos 102),
  under unaryShifts (andGotos 103),
  done .symAssign afterSign,
  done .symModify afterSign,
  done .symUpdateAdd afterSign,
  done .symUpdateSub afterSign,
  done .symUpdateMul afterSign,
  done .symUpdateDiv afterSign,
  done .symUpdateMod afterSign,
  done .symUpdateAlt afterSign,
  done .objectEmpty afterPrimary,
  under [(.closeBrace, 104), (.comma, 106)] [(.moreEntries, 105)],
  ⟨[(.colon, 107)], [], some (.entryField, afterEntry)⟩,
  ⟨[(.colon, 108)], [], some (.entryKey, afterEntry)⟩,
  under pipeShifts (pipeGotos 109),
  done .entryVariable afterEntry,
  under unaryShifts (compareGotos 110),
  under unaryShifts (additiveGotos 111),
  under unaryShifts (multiplicativeGotos 112),
  done .symEq afterSign,
  done .symNe afterSign,
  done .symLt afterSign,
  done .symLe afterSign,
  done .symGt afterSign,
  done .symGe afterSign,
  done .symAdd afterSign,
  done .symSub afterSign,
  under unaryShifts (unaryGotos 113),
  done .symMul afterSign,
  done .symDiv afterSign,
  done .symMod afterSign,
  ⟨suffixShifts, [], some (.negate, afterUnary)⟩,
  done .pipeOp afterPipe,
  done .commaOp afterComma,
  ⟨suffixShifts, [], some (.unaryOfSuffixed, afterUnary)⟩,
  under [(.bar, 114)] [],
  done .suffixKey afterSuffixed,
  done .suffixIterate afterSuffixed,
  under [(.closeBracket, 115), (.colon, 116)] [],
  under ((.closeBracket, 118) :: pipeShifts) (pipeGotos 117),
  under pipeShifts (pipeGotos 119),
  done .altOp afterComma,
  done .group afterPrimary,
  done .array afterPrimary,
  under [(.closeParen, 120), (.semicolon, 122)] [(.moreArgs, 121)],
  under pipeShifts (pipeGotos 123),
  under primaryShifts (primaryGotos 124),
  under [(.varName, 125)] [],
  under [(.varName, 126)] [],
  ⟨[(.kwOr, 54)], [], some (.assignOp, afterAssign)⟩,
  ⟨[(.kwAnd, 69)], [], some (.orOp, afterOr)⟩,
  done .objectOne afterPrimary,
  under [(.closeBrace, 127), (.comma, 128)] [],
  under [(.ident, 65), (.string, 66), (.openParen, 67), (.varName, 68)] [(.entry, 129)],
  under unaryShifts (objValueGotos 130),
  under unaryShifts (objValueGotos 132),
  under [(.closeParen, 133)] [],
  done .andOp afterAnd,
  ⟨[(.plus, 78), (.minus, 79)], [(.addSym, 71)], some (.compareOp, afterAnd)⟩,
  ⟨[(.star, 81), (.slash, 82), (.percent, 83)], [(.mulSym, 80)], some (.additiveOp,
    afterAdditive)⟩,
  done .multiplicativeOp afterMultiplicative,
  under pipeShifts (pipeGotos 134),
  done .suffixIndex afterSuffixed,
  under ((.closeBracket, 136) :: pipeShifts) (pipeGotos 135),
  under [(.closeBracket, 137)] [],
  done .suffixSliceAll afterSuffixed,
  done .label afterPipe,
  done .call afterPrimary,
  under [(.closeParen, 138), (.semicolon, 139)] [],
  under pipeShifts (pipeGotos 140),
  under [(.kwEnd, 141), (.kwElse, 142), (.kwElif, 145)] [(.elifs, 143), (.elif, 144)],
  done .attemptCatch afterPrimary,
  under [(.openParen, 146)] [],
  under [(.openParen, 147)] [],
  done .objectMore afterPrimary,
  under [(.ident, 65), (.string, 66), (.openParen, 67), (.varName, 68)] [(.entry, 148)],
  done .entriesOne afterEntry,
  ⟨[(.bar, 149)], [], some (.entryName, afterEntry)⟩,
  done .valueOfUnary afterObjValue,
  ⟨[(.bar, 149)], [], some (.entryString, afterEntry)⟩,
  under [(.colon, 150)] [],
  done .bind afterPipe,
  under [(.closeBracket, 151)] [],
  done .suffixSliceFrom afterSuffixed,
  done .suffixSliceTo afterSuffixed,
  done .callMore afterPrimary,
  under pipeShifts (pipeGotos 152),
  done .argsOne afterArg,
  done .condThen afterPrimary,
  under pipeShifts (pipeGotos 153),
  under [(.kwEnd, 154), (.kwElse, 155), (.kwElif, 145)] [(.elif, 156)],
  done .elifsOne afterElif,
  under pipeShifts (pipeGotos 157),
  under pipeShifts (pipeGotos 158),
  under pipeShifts (pipeGotos 159),
  done .entriesMore afterEntry,
  under unaryShifts (unaryGotos 160),
  under unaryShifts (objValueGotos 161),
  done .suffixSlice afterSuffixed,
  done .argsMore afterArg,
  under [(.kwEnd, 162)] [],
  done .condElif afterPrimary,
  under pipeShifts (pipeGotos 163),
  done .elifsMore afterElif,
  under [(.kwThen, 164)] [],
  under [(.semicolon, 165)] [],
  under [(.semicolon, 166)] [],
  done .valuePipe afterObjValue,
  ⟨[(.bar, 149)], [], some (.entryComputed, afterEntry)⟩,
  done .condElse afterPrimary,
  under [(.kwEnd, 167)] [],
  under pipeShifts (pipeGotos 168),
  under pipeShifts (pipeGotos 169),
  under pipeShifts (pipeGotos 170),
  done .condElifElse afterPrimary,
  done .elifBranch afterElif,
  under [(.closeParen, 171)] [],
  under [(.closeParen, 172), (.semicolon, 173)] [],
  done .reduce afterPrimary,
  done .foreach afterPrimary,
  under pipeShifts (pipeGotos 174),
  under [(.closeParen, 175)] [],
  done .foreachExtract afterPrimary]

/-- The row of a state. Beyond the last state there is nothing to do. -/
@[irreducible] def row (state : State) : Row :=
  rows[state]?.getD (under [] [])

namespace Row

/-- The production to finish before the given terminal. -/
def finish? (r : Row) (terminal : Terminal) : Option Production :=
  match r.finish with
  | some (p, before) => if before.contains terminal then some p else none
  | none => none

/-- Is there something to do at the given terminal? -/
def expects (r : Row) (terminal : Terminal) : Bool :=
  (r.shifts.lookup terminal).isSome || (r.finish? terminal).isSome

/-- The terminals at which there is something to do. -/
def expected (r : Row) : List Terminal :=
  let shifted := r.shifts.map Prod.fst
  match r.finish with
  | some (_, before) => shifted ++ before.filter fun terminal => !shifted.contains terminal
  | none => shifted

end Row

end JqFlow.Automaton
