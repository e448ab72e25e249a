import JqFlow.Toml.Scalar

/-!
# TOML documents

A document is a sequence of statements, one on a line: a key with its value, or a header that says
in which table the keys after it stand. Marks beside the table keep what its values do not show:
which tables were declared by a header, and which values were written inline and are complete.

## Main definitions

- `Toml.readKey`, `Toml.readValue`: keys and values
- `Toml.Mark`, `Toml.Document`: a document that is being read
- `Toml.Document.declare`, `Toml.Document.extend`, `Toml.Document.add`: its statements
- `Toml.parse`: the table of a document
-/

namespace JqFlow.Toml

/-- A key: its parts, from the outside in. -/
abbrev Key := List Text

/-! ### Keys -/

/-- What a part of a key can consist of without quotes. -/
def isBareKey (c : CodePoint) : Bool :=
  c.isAsciiLetter || c.isAsciiDigit || c = '-' || c = '_'

/-- A part of a key. -/
def readKeyPart : Text → Except Fault (Text × Text)
  | [] => .error .malformed
  | c :: rest =>
    if isBareKey c then .ok ((c :: rest).span isBareKey)
    else if c = '"' || c = '\'' then readLine c rest
    else .error .malformed

/-- The parts of a key from one of them on. The fuel bounds their number. -/
def readKeyFrom : Nat → Text → Except Fault (Key × Text)
  | 0, _ => .error .malformed
  | fuel + 1, t => do
    let (part, rest) ← readKeyPart t
    match skipSpace rest with
    | .scalar '.' :: rest =>
      let (parts, rest) ← readKeyFrom fuel (skipSpace rest)
      return (part :: parts, rest)
    | rest => return ([part], rest)

/-- A key, with the blanks after it. -/
def readKey (t : Text) : Except Fault (Key × Text) :=
  readKeyFrom (t.length + 1) t

/-! ### Marks -/

/-- What is known of the value of a key. -/
inductive MarkKind
  /-- Written inline: nothing can be added to it, or to what is in it. -/
  | complete
  /-- Declared by a header, or by the way that a dotted key took: not to be declared again. -/
  | declared
  deriving DecidableEq

/-- A mark on a key. -/
structure Mark where
  key : Key
  kind : MarkKind
  deriving DecidableEq

/-- Does the key have the mark? What is complete is so with all that is in it. -/
def isMarked (marks : List Mark) (kind : MarkKind) (key : Key) : Bool :=
  marks.any fun m =>
    m.kind = kind && (m.key = key || (kind = .complete && m.key.isPrefixOf key))

/-- Is a value written inline complete as it is? -/
def Value.isNested : Value → Bool
  | .list _ | .table _ => true
  | _ => false

/-! ### Values -/

/-- The text after a comment that comes next. -/
def skipComment (t : Text) : Except Fault Text :=
  match t with
  | .scalar '#' :: rest =>
    let (inside, rest) := rest.span (· ≠ CodePoint.scalar '\n')
    if inside.any isControl then .error .malformed else .ok rest
  | _ => .ok t

/-- The text after blanks, line ends and comments. The fuel bounds the number of comments. -/
def skipFiller : Nat → Text → Except Fault Text
  | 0, t => .ok t
  | fuel + 1, t => do
    let rest ← skipComment (t.dropWhile isSpaceOrBreak)
    if rest.length < t.length then skipFiller fuel rest else return rest

/-- An inline table that is being read. -/
structure Inline where
  fields : Table
  marks : List Mark

/-- The inline table with one more value. -/
def Inline.add (t : Inline) (key : Key) (v : Value) : Except Fault Inline :=
  if isMarked t.marks .complete key then .error .malformed
  else
    match Table.modify? false (Table.add? (key.getLast?.getD []) v) key.dropLast t.fields with
    | none => .error .malformed
    | some fields => .ok ⟨fields, if v.isNested then ⟨key, .complete⟩ :: t.marks else t.marks⟩

mutual

/-- The value that comes next. The fuel bounds how deep values are nested, and how many there are in
one of them. -/
def readValue : Nat → Text → Except Fault (Value × Text)
  | 0, _ | _, [] => .error .malformed
  | fuel + 1, c :: rest =>
    if c = '"' || c = '\'' then do
      let (t, rest) ← readString c (c :: rest)
      return (.text t, rest)
    else if c = '[' then do
      let (items, rest) ← readItems fuel rest
      return (.list items, rest)
    else if c = '\x7b' then
      match skipSpace rest with
      | .scalar '\x7d' :: rest => .ok (.table [], rest)
      | rest => do
        let (fields, rest) ← readFields fuel ⟨[], []⟩ rest
        return (.table fields, rest)
    else
      match readMoment? (c :: rest) with
      | some r => r
      | none =>
        match readNumber? (c :: rest) with
        | some r => r
        | none =>
          match readNamed? (c :: rest) with
          | some r => .ok r
          | none => .error .malformed

/-- The items of a list, from one of them or its end on. -/
def readItems : Nat → Text → Except Fault ((List Value) × Text)
  | 0, _ => .error .malformed
  | fuel + 1, t => do
    match ← skipFiller (t.length + 1) t with
    | .scalar ']' :: rest => return ([], rest)
    | rest =>
      let (v, rest) ← readValue fuel rest
      match ← skipFiller (rest.length + 1) rest with
      | .scalar ']' :: rest => return ([v], rest)
      | .scalar ',' :: rest =>
        let (vs, rest) ← readItems fuel rest
        return (v :: vs, rest)
      | _ => .error .malformed

/-- The fields of an inline table from one of them on. -/
def readFields : Nat → Inline → Text → Except Fault (Table × Text)
  | 0, _, _ => .error .malformed
  | fuel + 1, t, text => do
    let (key, rest) ← readKey text
    match rest with
    | .scalar '=' :: rest =>
      let (v, rest) ← readValue fuel (skipSpace rest)
      let t ← t.add key v
      match skipSpace rest with
      | .scalar '\x7d' :: rest => return (t.fields, rest)
      | .scalar ',' :: rest => readFields fuel t (skipSpace rest)
      | _ => .error .malformed
    | _ => .error .malformed

end

/-- A key with its value. -/
def readPair (t : Text) : Except Fault ((Key × Value) × Text) := do
  let (key, rest) ← readKey t
  match rest with
  | .scalar '=' :: rest =>
    let (v, rest) ← readValue (2 * rest.length + 2) (skipSpace rest)
    return ((key, v), rest)
  | _ => .error .malformed

/-! ### Statements -/

/-- A document that is being read: its table, the marks, the marks that count from the next header
on, and the table that the last header named. -/
structure Document where
  table : Table
  marks : List Mark
  pending : List Mark
  header : Key

namespace Document

/-- A document before its first statement. -/
def empty : Document := ⟨[], [], [], []⟩

/-- The document at a header: the marks that were put off count now. -/
def settle (d : Document) : Document :=
  { d with marks := d.pending ++ d.marks, pending := [] }

/-- A header that declares a table. -/
def declare (d : Document) (key : Key) : Except Fault Document :=
  if isMarked d.marks .declared key || isMarked d.marks .complete key then .error .malformed
  else
    match Table.modify? true some key d.table with
    | none => .error .malformed
    | some table => .ok { d with table, marks := ⟨key, .declared⟩ :: d.marks, header := key }

/-- A header that adds a table to a list of tables. Nothing is known yet of what is in it. -/
def extend (d : Document) (key : Key) : Except Fault Document :=
  if isMarked d.marks .complete key then .error .malformed
  else
    match Table.modify? true (Table.extendList? (key.getLast?.getD [])) key.dropLast d.table with
    | none => .error .malformed
    | some table =>
      let marks := d.marks.filter fun m => !key.isPrefixOf m.key
      .ok { d with table, marks := ⟨key, .declared⟩ :: marks, header := key }

/-- The keys of the tables on the way of a dotted key. -/
def wayOf (header key : Key) : List Key :=
  (List.range (key.length - 1)).map fun i => header ++ key.take (i + 1)

/-- A key with its value. -/
def add (d : Document) (key : Key) (v : Value) : Except Fault Document :=
  let way := wayOf d.header key
  let parent := d.header ++ key.dropLast
  if way.any (isMarked d.marks .declared) || isMarked d.marks .complete parent then
    .error .malformed
  else
    match Table.modify? true (Table.add? (key.getLast?.getD []) v) parent d.table with
    | none => .error .malformed
    | some table =>
      .ok { d with
        table
        marks := if v.isNested then ⟨d.header ++ key, .complete⟩ :: d.marks else d.marks
        pending := way.map (⟨·, .declared⟩) ++ d.pending }

/-- A header, from after its first bracket on. -/
def readHeader (d : Document) (t : Text) : Except Fault (Document × Text) := do
  let d := d.settle
  match t with
  | .scalar '[' :: rest =>
    let (key, rest) ← readKey (skipSpace rest)
    let d ← d.extend key
    match rest with
    | .scalar ']' :: .scalar ']' :: rest => return (d, rest)
    | _ => .error .malformed
  | rest =>
    let (key, rest) ← readKey (skipSpace rest)
    let d ← d.declare key
    match rest with
    | .scalar ']' :: rest => return (d, rest)
    | _ => .error .malformed

/-- The statement of a line, if there is one. -/
def readStatement (d : Document) (t : Text) : Except Fault (Document × Text) :=
  match t with
  | [] => .ok (d, [])
  | c :: rest =>
    if c = '\n' || c = '#' then .ok (d, t)
    else if c = '[' then d.readHeader rest
    else do
      let ((key, v), rest) ← readPair t
      let d ← d.add key v
      return (d, rest)

/-- The document after the lines that come next. The fuel bounds their number. -/
def readLines : Nat → Document → Text → Except Fault Document
  | 0, d, _ => .ok d
  | fuel + 1, d, t => do
    let (d, rest) ← d.readStatement (skipSpace t)
    match ← skipComment (skipSpace rest) with
    | [] => return d
    | c :: rest => if c = '\n' then readLines fuel d rest else .error .malformed

end Document

/-- The table that a document says. A carriage return before a line feed does not matter. Arrays and
inline tables can stand in each other to any depth: there is no limit on it that would refuse a
document. -/
def parse (t : Text) : Except Fault Table :=
  let t := Text.join "\n" (splitLines t)
  (Document.readLines (t.length + 1) .empty t).map Document.table
where
  /-- The lines of a text, without a carriage return at the end of each but the last. -/
  splitLines (t : Text) : List Text :=
    let lines := t.splitOn '\n'
    lines.dropLast.map (fun line =>
      if line.getLast? = some (.scalar '\r') then line.dropLast else line) ++
      lines.getLast?.toList

end JqFlow.Toml
