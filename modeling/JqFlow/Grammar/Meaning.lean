import JqFlow.Grammar.Rule
import JqFlow.Query.Printer

/-!
# What the phrases of the grammar mean

A phrase means a query, an operator, or a part of a query; a token means its text. The meaning of a
production is a function of the meanings of its parts.

## Main definitions

- `Symbol.Value`: the type of the meanings of a symbol
- `Production.action`: the meaning of a production
-/

namespace JqFlow

/-- What a phrase means. -/
def Nonterminal.Value : Nonterminal → Type
  | assignSym | cmpSym | addSym | mulSym => Operator
  | moreArgs => List Query
  | elif => Query × Query
  | elifs => List (Query × Query)
  | entry => Entry Query
  | moreEntries => List (Entry Query)
  | start | pipe | comma | alt | assign | orExpr | andExpr | compare | additive | multiplicative
  | unary | suffixed | primary | object | objValue => Query

/-- What a symbol means; a token means its text. -/
def Symbol.Value : Symbol → Type
  | t _ => Text
  | n x => x.Value

/-- What the symbols of a sequence mean. -/
def Symbol.Values : List Symbol → Type
  | [] => Unit
  | s :: ss => s.Value × Symbol.Values ss

/-- A suffix attached to its subject: their pipe, or the suffix alone where the subject is the
input. -/
def Query.chain (subject suffix : Query) : Query :=
  match subject with
  | .identity => suffix
  | _ => .pipe subject suffix

/-- The meaning of a name that stands alone: a constant, or a function without arguments. -/
def Query.ofName (name : Text) : Query :=
  if name = "null" then .null
  else if name = "true" then .bool true
  else if name = "false" then .bool false
  else .call name []

/-- A field, iteration, and the other kinds of access. -/
def Query.field (name : Text) : Query := .index (some name) none none

/-- Access to a field with a quoted name. -/
def Query.keyIndex (key : Text) : Query := .index none (some key) none

/-- Access to the place of an expression. -/
def Query.at (expr : Query) : Query := .index none none (some expr)

/-- Iteration over all elements. -/
def Query.iterate : Query := .index none none none

namespace Production

open JqFlow.Symbol (Values)

/-- The meaning of a production, from the meanings of its parts. -/
def action : (p : Production) → Values p.rhs → p.lhs.Value
  | .start, (q, ()) => q
  | .pipeOfComma, (q, ()) => q
  | .pipeOp, (a, _, b, ()) => .pipe a b
  | .bind, (source, _, name, _, body, ()) => .bind source (name.drop 1) body
  | .label, (_, name, _, body, ()) => .label (name.drop 1) body
  | .commaOfAlt, (q, ()) => q
  | .commaOp, (a, _, b, ()) => .binary .comma a b
  | .altOfAssign, (q, ()) => q
  | .altOp, (a, _, b, ()) => .binary .alt a b
  | .assignOfOr, (q, ()) => q
  | .assignOp, (a, op, b, ()) => .binary op a b
  | .orOfAnd, (q, ()) => q
  | .orOp, (a, _, b, ()) => .binary .or a b
  | .andOfCompare, (q, ()) => q
  | .andOp, (a, _, b, ()) => .binary .and a b
  | .compareOfAdditive, (q, ()) => q
  | .compareOp, (a, op, b, ()) => .binary op a b
  | .additiveOfMultiplicative, (q, ()) => q
  | .additiveOp, (a, op, b, ()) => .binary op a b
  | .multiplicativeOfUnary, (q, ()) => q
  | .multiplicativeOp, (a, op, b, ()) => .binary op a b
  | .unaryOfSuffixed, (q, ()) => q
  | .negate, (_, q, ()) => .unary "-" q
  | .symAssign, _ => .assign
  | .symModify, _ => .modify
  | .symUpdateAdd, _ => .updateAdd
  | .symUpdateSub, _ => .updateSub
  | .symUpdateMul, _ => .updateMul
  | .symUpdateDiv, _ => .updateDiv
  | .symUpdateMod, _ => .updateMod
  | .symUpdateAlt, _ => .updateAlt
  | .symEq, _ => .eq
  | .symNe, _ => .ne
  | .symLt, _ => .lt
  | .symLe, _ => .le
  | .symGt, _ => .gt
  | .symGe, _ => .ge
  | .symAdd, _ => .add
  | .symSub, _ => .sub
  | .symMul, _ => .mul
  | .symDiv, _ => .div
  | .symMod, _ => .mod
  | .suffixedOfPrimary, (q, ()) => q
  | .suffixField, (q, name, ()) => .chain q (.field (name.drop 1))
  | .suffixKey, (q, _, key, ()) => .chain q (.keyIndex (Quoted.unquote key))
  | .suffixIterate, (q, _) => .chain q .iterate
  | .suffixIndex, (q, _, e, _) => .chain q (.at e)
  | .suffixSlice, (q, _, a, _, b, _) => .chain q (.slice (some a) (some b))
  | .suffixSliceFrom, (q, _, a, _) => .chain q (.slice (some a) none)
  | .suffixSliceTo, (q, _, _, b, _) => .chain q (.slice none (some b))
  | .suffixSliceAll, (q, _) => .chain q (.slice none none)
  | .suffixTry, (q, _) => .attempt q none
  | .identity, _ => .identity
  | .recurse, _ => .recurse
  | .field, (name, ()) => .field (name.drop 1)
  | .quotedField, (_, key, ()) => .keyIndex (Quoted.unquote key)
  | .number, (text, ()) => .number text
  | .string, (text, ()) => .string (Quoted.unquote text)
  | .format, (name, ()) => .format name none
  | .formatString, (name, text, ()) => .format name (some (Quoted.unquote text))
  | .varRef, (name, ()) => .var (name.drop 1)
  | .group, (_, q, _) => .group q
  | .arrayEmpty, _ => .array none
  | .array, (_, q, _) => .array (some q)
  | .primaryOfObject, (q, ()) => q
  | .bareName, (name, ()) => .ofName name
  | .call, (name, _, arg, _) => .call name [arg]
  | .callMore, (name, _, arg, args, _) => .call name (arg :: args)
  | .condThen, (_, test, _, branch, _) => .cond test branch [] none
  | .condElse, (_, test, _, branch, _, otherwise, _) => .cond test branch [] (some otherwise)
  | .condElif, (_, test, _, branch, elifs, _) => .cond test branch elifs none
  | .condElifElse, (_, test, _, branch, elifs, _, otherwise, _) =>
    .cond test branch elifs (some otherwise)
  | .attempt, (_, body, ()) => .attempt body none
  | .attemptCatch, (_, body, _, handler, ()) => .attempt body (some handler)
  | .reduce, (_, source, _, name, _, init, _, update, _) =>
    .reduce source (name.drop 1) init update
  | .foreach, (_, source, _, name, _, init, _, update, _) =>
    .foreach source (name.drop 1) init update none
  | .foreachExtract, (_, source, _, name, _, init, _, update, _, extract, _) =>
    .foreach source (name.drop 1) init update (some extract)
  | .breakTo, (_, name, ()) => .breakTo (name.drop 1)
  | .argsOne, (_, q, ()) => [q]
  | .argsMore, (qs, _, q, ()) => List.append qs [q]
  | .elifsOne, (e, ()) => [e]
  | .elifsMore, (es, e, ()) => List.append es [e]
  | .elifBranch, (_, test, _, branch, ()) => (test, branch)
  | .objectEmpty, _ => .object []
  | .objectOne, (_, e, _) => .object [e]
  | .objectMore, (_, e, es, _) => .object (e :: es)
  | .entriesOne, (_, e, ()) => [e]
  | .entriesMore, (es, _, e, ()) => List.append es [e]
  | .entryName, (key, _, value, ()) => ⟨key, value, none⟩
  | .entryString, (key, _, value, ()) => ⟨Quoted.unquote key, value, none⟩
  | .entryComputed, (_, key, _, _, value, ()) => ⟨Query.print key, value, some key⟩
  | .entryField, (name, ()) => ⟨name, .field name, none⟩
  | .entryKey, (key, ()) => ⟨Quoted.unquote key, .keyIndex (Quoted.unquote key), none⟩
  | .entryVariable, (name, ()) => ⟨name.drop 1, .var (name.drop 1), none⟩
  | .valueOfUnary, (q, ()) => q
  | .valuePipe, (a, _, b, ()) => .pipe a b

end Production

end JqFlow
