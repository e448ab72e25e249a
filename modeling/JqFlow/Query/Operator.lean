import JqFlow.Text.Basic

/-!
# The operators of the query language

## Main definitions

- `Operator`: the binary operators, the empty operator, and operators known by name only
- `Operator.symbol?`: how an operator is written in a query
- `Operator.precedence`, `Operator.isRightAssociative`: how operators group
- `Operator.label`: how an operator is shown in a diagram
-/

namespace JqFlow

/-- What joins the two sides of an operation. `noop` joins without an operator; `other` is an
operator the language does not have. -/
inductive Operator
  | noop
  | pipe
  | comma
  | add
  | sub
  | mul
  | div
  | mod
  | eq
  | ne
  | gt
  | lt
  | ge
  | le
  | and
  | or
  | alt
  | assign
  | modify
  | updateAdd
  | updateSub
  | updateMul
  | updateDiv
  | updateMod
  | updateAlt
  | other (name : Text)
  deriving DecidableEq, Inhabited

namespace Operator

/-- The operators that have a name in the language, the empty one included. -/
def all : List Operator :=
  [noop, pipe, comma, add, sub, mul, div, mod, eq, ne, gt, lt, ge, le, and, or, alt, assign, modify,
    updateAdd, updateSub, updateMul, updateDiv, updateMod, updateAlt]

/-- The name of an operator, in lower case. -/
def tag : Operator → Text
  | noop => "noop"
  | pipe => "pipe"
  | comma => "comma"
  | add => "add"
  | sub => "sub"
  | mul => "mul"
  | div => "div"
  | mod => "mod"
  | eq => "eq"
  | ne => "ne"
  | gt => "gt"
  | lt => "lt"
  | ge => "ge"
  | le => "le"
  | and => "and"
  | or => "or"
  | alt => "alt"
  | assign => "assign"
  | modify => "modify"
  | updateAdd => "update_add"
  | updateSub => "update_sub"
  | updateMul => "update_mul"
  | updateDiv => "update_div"
  | updateMod => "update_mod"
  | updateAlt => "update_alt"
  | other name => name

/-- The operator with the given name. -/
def ofTag (name : Text) : Operator :=
  (all.find? fun op => op.tag = name).getD (other name)

/-- How an operator is written between its operands. -/
def symbol? : Operator → Option Text
  | noop => none
  | pipe => some "|"
  | comma => some ","
  | add => some "+"
  | sub => some "-"
  | mul => some "*"
  | div => some "/"
  | mod => some "%"
  | eq => some "=="
  | ne => some "!="
  | gt => some ">"
  | lt => some "<"
  | ge => some ">="
  | le => some "<="
  | and => some "and"
  | or => some "or"
  | alt => some "//"
  | assign => some "="
  | modify => some "|="
  | updateAdd => some "+="
  | updateSub => some "-="
  | updateMul => some "*="
  | updateDiv => some "/="
  | updateMod => some "%="
  | updateAlt => some "//="
  | other _ => none

/-- Is this one of the operators that write to the place on their left? -/
def isAssignment : Operator → Bool
  | assign | modify | updateAdd | updateSub | updateMul | updateDiv | updateMod | updateAlt => true
  | _ => false

/-- Is this one of the operators that compare two values? -/
def isComparison : Operator → Bool
  | eq | ne | gt | lt | ge | le => true
  | _ => false

/-- Is this one of the operators on numbers? -/
def isArithmetic : Operator → Bool
  | add | sub | mul | div | mod => true
  | _ => false

/-- How tightly an operator binds, loosest first. What the language does not have binds at 0. -/
def precedence : Operator → Nat
  | pipe => 1
  | comma => 2
  | alt => 3
  | assign | modify | updateAdd | updateSub | updateMul | updateDiv | updateMod | updateAlt => 4
  | or => 5
  | and => 6
  | eq | ne | gt | lt | ge | le => 7
  | add | sub => 8
  | mul | div | mod => 9
  | noop | other _ => 0

/-- Does a run of this operator group to the right? -/
def isRightAssociative : Operator → Bool
  | pipe | alt => true
  | _ => false

/-- The name shown for an operator of the language. -/
def title? : Operator → Option Text
  | pipe => some "Pipe"
  | comma => some "Comma"
  | add => some "Add"
  | sub => some "Subtract"
  | mul => some "Multiply"
  | div => some "Divide"
  | mod => some "Modulo"
  | eq => some "Equal"
  | ne => some "Not Equal"
  | gt => some "Greater Than"
  | lt => some "Less Than"
  | ge => some "Greater or Equal"
  | le => some "Less or Equal"
  | and => some "And"
  | or => some "Or"
  | alt => some "Alternative"
  | assign => some "Assign"
  | modify => some "Modify"
  | updateAdd => some "Update Add"
  | updateSub => some "Update Subtract"
  | updateMul => some "Update Multiply"
  | updateDiv => some "Update Divide"
  | updateMod => some "Update Modulo"
  | updateAlt => some "Update Alternative"
  | noop | other _ => none

/-- The label of an operator: its name with its symbol, or its bare tag where the language does not
have it. -/
def label (op : Operator) : Text :=
  match op.title?, op.symbol? with
  | some title, some symbol => title ++ " (" ++ symbol ++ ")"
  | _, _ => if op = noop then "Query" else "Op(" ++ op.tag ++ ")"

end Operator

end JqFlow
