import JqFlow.Number.Binary64

/-!
# TOML values

What a TOML document says: a table, whose values can again be tables, and lists. Dates and times
are told from one another by kind only.

## Main definitions

- `Toml.Value`, `Toml.Table`: values, and tables as lists of named values
- `Toml.Table.get?`, `Toml.Table.put`: one value of a table
- `Toml.Table.modify?`: a change to a table inside a table
- `Toml.Table.extendList?`: one more table in a list of tables
-/

namespace JqFlow.Toml

/-- The value of a key. -/
inductive Value
  | text (t : Text)
  | whole (n : Int)
  | real (x : Binary64)
  | bool (b : Bool)
  | dateTime
  | date
  | time
  | list (items : List Value)
  | table (fields : List (Text × Value))

/-- Named values, each name at most once. -/
abbrev Table := List (Text × Value)

namespace Table

/-- The value with the given name. -/
def get? (t : Table) (name : Text) : Option Value :=
  t.lookup name

/-- The table with a value under a name, in place of what was there. -/
def put (t : Table) (name : Text) (v : Value) : Table :=
  match t with
  | [] => [(name, v)]
  | (k, w) :: rest => if k = name then (k, v) :: rest else (k, w) :: put rest name v

/-- The table with the table at the end of `path` changed by `f`. Tables that are missing on the
way are made. If `intoLists`, a list of tables on the way stands for its last table. -/
def modify? (intoLists : Bool) (f : Table → Option Table) : List Text → Table → Option Table
  | [], t => f t
  | k :: path, t =>
    match t.get? k with
    | none => (modify? intoLists f path []).map fun inner => t.put k (.table inner)
    | some (.table inner) =>
      (modify? intoLists f path inner).map fun inner => t.put k (.table inner)
    | some (.list items) =>
      match intoLists, items.getLast? with
      | true, some (.table inner) =>
        (modify? intoLists f path inner).map fun inner =>
          t.put k (.list (items.dropLast ++ [.table inner]))
      | _, _ => none
    | some _ => none

/-- The table with a new value under a name that it does not have yet. -/
def add? (name : Text) (v : Value) (t : Table) : Option Table :=
  match t.get? name with
  | some _ => none
  | none => some (t.put name v)

/-- The table with one more table, an empty one, in the list under a name. -/
def extendList? (name : Text) (t : Table) : Option Table :=
  match t.get? name with
  | none => some (t.put name (.list [.table []]))
  | some (.list items) => some (t.put name (.list (items ++ [.table []])))
  | some _ => none

end Table

end JqFlow.Toml
