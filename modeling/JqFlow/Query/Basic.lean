import JqFlow.Query.Operator

/-!
# Queries

The abstract syntax of the query language. A query is an operation or a term; suffix chains such as
`.a[0]` are pipes of their links.

## Main definitions

- `Query`: the abstract syntax
- `Entry`: one `key: value` pair of an object construction
- `Query.same`: equality of queries, decided by `Query.same_iff`

## Design notes

The sides of an operation are optional and operators may be unknown, and `Query.foreign` stands for
a part of some other kind, because queries are also put together by hand. The reader of query text
only makes complete ones.
-/

namespace JqFlow

/-- One pair of an object construction. A computed key `(expr): value` has its expression in
`keyExpr` and the text of the expression in `key`. -/
structure Entry (α : Type) where
  key : Text
  value : α
  keyExpr : Option α

/-- A query. -/
inductive Query
  /-- Two sides joined by an operator. -/
  | operation (op : Operator) (left right : Option Query)
  /-- The input itself: `.` -/
  | identity
  /-- Every value below the input: `..` -/
  | recurse
  | null
  | bool (value : Bool)
  /-- A number as it is written. -/
  | number (text : Text)
  /-- A string with its escapes decoded. -/
  | string (text : Text)
  /-- A format such as `@base64`, which may be applied to a string. -/
  | format (name : Text) (text : Option Text)
  /-- Access to a field `.name`, to a quoted field `."key"` or to the place of `.[expr]`. With none
  of them it is iteration, `.[]`. -/
  | index (name key : Option Text) (expr : Option Query)
  /-- The part `.[start:stop]`, open where a bound is absent. -/
  | slice (start stop : Option Query)
  /-- A function applied to its arguments. -/
  | call (name : Text) (args : List Query)
  /-- An array construction, `[]` without a body. -/
  | array (body : Option Query)
  /-- An object construction. -/
  | object (entries : List (Entry Query))
  /-- A prefixed operator. -/
  | unary (op : Text) (operand : Query)
  /-- A conditional: a test and a branch, further tests with their branches, and the last resort. -/
  | cond (test branch : Query) (elifs : List (Query × Query)) (otherwise : Option Query)
  /-- The body, with what to do where it fails. -/
  | attempt (body : Query) (handler : Option Query)
  /-- A fold over the values of `source`, each called `$name`. -/
  | reduce (source : Query) (name : Text) (init update : Query)
  /-- A fold that also yields on the way. -/
  | foreach (source : Query) (name : Text) (init update : Query) (extract : Option Query)
  /-- A place to break out to. -/
  | label (name : Text) (body : Query)
  | breakTo (name : Text)
  /-- The variable `$name`. -/
  | var (name : Text)
  /-- The body with `$name` standing for each value of the source in turn. -/
  | bind (source : Query) (name : Text) (body : Query)
  /-- A query in parentheses. -/
  | group (body : Query)
  /-- A part of no kind of the language, with the name of its kind if it has one. -/
  | foreign (kind : Option Text)
  deriving Inhabited

namespace Query

/-- The pipe of two queries. -/
def pipe (left right : Query) : Query :=
  operation .pipe (some left) (some right)

/-- The operation of two queries. -/
def binary (op : Operator) (left right : Query) : Query :=
  operation op (some left) (some right)

/-- The name of the kind of a foreign part, where it has none of its own. -/
def foreignKind : Text := "Mystery"

mutual

/-- Are two queries equal? -/
def same : Query → Query → Bool
  | operation op l r, operation op' l' r' => op = op' && sameOption l l' && sameOption r r'
  | identity, identity => true
  | recurse, recurse => true
  | null, null => true
  | bool b, bool b' => b = b'
  | number t, number t' => t = t'
  | string t, string t' => t = t'
  | format n t, format n' t' => n = n' && t = t'
  | index n k e, index n' k' e' => n = n' && k = k' && sameOption e e'
  | slice a b, slice a' b' => sameOption a a' && sameOption b b'
  | call n as, call n' as' => n = n' && sameList as as'
  | array b, array b' => sameOption b b'
  | object es, object es' => sameEntries es es'
  | unary op q, unary op' q' => op = op' && same q q'
  | cond t b es o, cond t' b' es' o' =>
    same t t' && same b b' && samePairs es es' && sameOption o o'
  | attempt b h, attempt b' h' => same b b' && sameOption h h'
  | reduce s n i u, reduce s' n' i' u' => same s s' && n = n' && same i i' && same u u'
  | foreach s n i u e, foreach s' n' i' u' e' =>
    same s s' && n = n' && same i i' && same u u' && sameOption e e'
  | label n b, label n' b' => n = n' && same b b'
  | breakTo n, breakTo n' => n = n'
  | var n, var n' => n = n'
  | bind s n b, bind s' n' b' => same s s' && n = n' && same b b'
  | group b, group b' => same b b'
  | foreign k, foreign k' => k = k'
  | _, _ => false

/-- Are both absent, or both present and equal? -/
def sameOption : Option Query → Option Query → Bool
  | none, none => true
  | some p, some q => same p q
  | _, _ => false

/-- Are two lists of queries equal? -/
def sameList : List Query → List Query → Bool
  | [], [] => true
  | p :: ps, q :: qs => same p q && sameList ps qs
  | _, _ => false

/-- Are two lists of entries equal? -/
def sameEntries : List (Entry Query) → List (Entry Query) → Bool
  | [], [] => true
  | ⟨k, v, e⟩ :: es, ⟨k', v', e'⟩ :: es' =>
    k = k' && same v v' && sameOption e e' && sameEntries es es'
  | _, _ => false

/-- Are two lists of pairs of queries equal? -/
def samePairs : List (Query × Query) → List (Query × Query) → Bool
  | [], [] => true
  | (a, b) :: ps, (a', b') :: ps' => same a a' && same b b' && samePairs ps ps'
  | _, _ => false

end

end Query

end JqFlow
