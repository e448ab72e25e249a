import JqFlow.Query.Printer

/-!
# How queries are shown

## Main definitions

- `Query.title`, `Query.shape`: the label of a query in a diagram, and how it is drawn
- `Query.unlabelled?`: the part of a query for want of which it has no label
- `Query.label?`: the label of a query that has one
- `ValueType`, `Query.outputType?`: the type of the values of a query, where it can be told
-/

namespace JqFlow

/-- How an element of a diagram is drawn. -/
inductive Shape
  | circle
  | rectangle
  | container
  deriving DecidableEq, Inhabited

/-- The name of a shape. -/
def Shape.name : Shape → Text
  | circle => "circle"
  | rectangle => "rectangle"
  | container => "container"

/-- The shape with the given name. -/
def Shape.ofName? (name : Text) : Option Shape :=
  [circle, rectangle, container].find? fun shape => shape.name = name

/-- The types of values. -/
inductive ValueType
  | null
  | boolean
  | number
  | string
  | array
  | object
  deriving DecidableEq, Inhabited

/-- The name of a type. -/
def ValueType.name : ValueType → Text
  | null => "null"
  | boolean => "boolean"
  | number => "number"
  | string => "string"
  | array => "array"
  | object => "object"

/-- How a variable is shown. -/
def variableLabel (name : Text) : Text := "$" ++ name

/-- The title of the container drawn for a call. -/
def functionTitle (name : Text) : Text := name ++ "()"

/-- The title of the container drawn for one key of an object. -/
def objectKeyTitle (key : Text) : Text := key ++ " \x7b"

/-- The type of what a function of the given name yields, as far as its name tells. -/
def functionType? (name : Text) : Option ValueType :=
  let among (names : List Text) := names.contains name
  if among ["cat", "tee", "sh", "md5"] ||
      ["base", "hex", "sha"].any (fun start => (Text.ofString start).isPrefixOf name) ||
      ["_encode", "_decode"].any (fun final => (Text.ofString final).isSuffixOf name) then
    some .string
  else if among ["length", "utf8bytelength"] then some .number
  else if among ["keys", "keys_unsorted"] then some .array
  else none

namespace Query

/-- The label of a term; an operation has the one of an unknown term. -/
def termLabel : Query → Text
  | operation .. => "Term(Operation)"
  | identity => "Identity (.)"
  | recurse => "Recurse (..)"
  | null => "null"
  | bool true => "true"
  | bool false => "false"
  | slice start stop => "Slice [" ++ printOption start ++ ":" ++ printOption stop ++ "]"
  | index name key expr =>
    match name, key, expr with
    | some (c :: name), _, _ => "Index: " ++ c :: name
    | _, some key, _ => "Index: " ++ Quoted.quote key
    | _, none, some (string text) => "Index: " ++ Quoted.quote text
    | _, _, _ => "Index"
  | call name _ => "Function: " ++ name
  | array _ => "Array"
  | object _ => "Object"
  | number text => if text = [] then "Number" else "Number: " ++ text
  | unary op _ => "Unary: " ++ op
  | format name _ => "Format: " ++ name
  | string text => "String: " ++ Quoted.quote text
  | cond .. => "If"
  | attempt .. => "Try"
  | reduce .. => "Reduce"
  | foreach .. => "Foreach"
  | label .. => "Label"
  | breakTo _ => "Break"
  | group _ => "Query"
  | var name => variableLabel name
  | bind _ name _ => "Bind: " ++ variableLabel name
  | foreign kind => "Term(" ++ kind.getD foreignKind ++ ")"

/-- The label of a query: of its operator, or of the term that it is. -/
def title : Query → Text
  | operation op _ _ => op.label
  | q => q.termLabel

/-- How a query is drawn. -/
def shape : Query → Shape
  | call .. | array _ | object _ => .container
  | _ => .rectangle

/-- The part of a query that keeps it from having a label. Only the label of a slice shows parts of
the query. -/
def unlabelled? : Query → Option Unprintable
  | slice start stop => unprintableOption? start <|> unprintableOption? stop
  | _ => none

/-- The label of a query and how it is drawn, or the first part for want of which it has none. -/
def label? (q : Query) : Except Unprintable (Text × Shape) :=
  match q.unlabelled? with
  | some part => .error part
  | none => .ok (q.title, q.shape)

/-- The type of the values of a query, where its outermost form tells. -/
def outputType? : Query → Option ValueType
  | string _ | format .. => some .string
  | number _ => some .number
  | bool _ => some .boolean
  | null => some .null
  | array _ => some .array
  | object _ => some .object
  | call name _ => functionType? name
  | operation op _ _ =>
    if op.isArithmetic then some .number
    else if op.isComparison || op = .and || op = .or then some .boolean
    else none
  | _ => none

end Query

end JqFlow
