import JqFlow.Graph.Builder

/-!
# Diagram scripts

A flow graph as a script of the D2 diagram language: a title, a block for every element with the
blocks of its children inside, and a line for every edge.

## Main definitions

- `Script.quote`: a label as a string of the diagram language
- `Graph.script`: the script of a graph
- `Graph.script?`: the same, refused if an edge has an end that is not declared
-/

namespace JqFlow

namespace Script

/-- The title of a diagram that is given none. -/
def defaultTitle : Text := "jq query flow"

/-- The direction in which a diagram is laid out. -/
def defaultDirection : Text := "down"

/-- How one code point is written between double quotes. -/
def encodeDouble : CodePoint → Text
  | .scalar '\\' => "\\\\"
  | .scalar '"' => "\\\""
  | .scalar '\n' => "\\n"
  | c => [c]

/-- How one code point is written between single quotes. -/
def encodeSingle : CodePoint → Text
  | .scalar '\n' => " "
  | .scalar '\'' => "\\'"
  | c => [c]

/-- Would a text be taken for one with a variable in it, between double quotes? -/
def hasSubstitution (t : Text) : Bool :=
  Text.hasInfix "$\x7b" t

/-- A label as a string. Double quotes are used unless the text would be taken for one with a
variable in it. -/
def quote (t : Text) : Text :=
  if hasSubstitution t then "'" ++ t.replaceEach encodeSingle ++ "'"
  else "\"" ++ t.replaceEach encodeDouble ++ "\""

/-- The margin of a line at the given depth. -/
def indent (depth : Nat) : Text :=
  List.replicate (2 * depth) ' '

/-- The line with the detail of an element, which is left out if it adds nothing to the label. -/
def tooltip (depth : Nat) (e : Element) : List Text :=
  match e.detail with
  | some detail =>
    if detail = [] || detail = e.label then []
    else [indent depth ++ "tooltip: " ++ quote detail]
  | none => []

/-- The lines of a block, around those inside it. -/
def block (depth : Nat) (e : Element) (inside : List Text) : List Text :=
  [indent depth ++ e.id ++ ": \x7b", indent (depth + 1) ++ "label: " ++ quote e.label] ++
    tooltip (depth + 1) e ++ inside ++ [indent depth ++ "\x7d"]

mutual

/-- The lines that declare an element. -/
def declare (depth : Nat) : Element → List Text
  | .node id label shape detail =>
    block depth (.node id label shape detail) [indent (depth + 1) ++ "shape: " ++ shape.name]
  | .container id label children detail =>
    block depth (.container id label children detail) (declareAll (depth + 1) children)

/-- The lines that declare several elements. -/
def declareAll (depth : Nat) : List Element → List Text
  | [] => []
  | e :: es => declare depth e ++ declareAll depth es

end

/-- The lines before the declarations. -/
def header (title direction : Text) : List Text :=
  ["title: \x7b", "  label: " ++ quote title, "  near: top-center", "  shape: text",
    "  style.font-size: 24", "\x7d", "direction: " ++ direction, ""]

/-- How a line addresses an element: by the ids on the way to it. -/
def address (g : Graph) (id : Id) : Text :=
  (g.pathOf? id).getD id

/-- The line of an edge. -/
def edgeLine (g : Graph) (e : Edge) : Text :=
  let ends := address g e.source ++ " -> " ++ address g e.target
  match e.label with
  | some label => if label = [] then ends else ends ++ ": " ++ quote label
  | none => ends

end Script

/-- The script of a graph. -/
def Graph.script (g : Graph) (title : Text := Script.defaultTitle)
    (direction : Text := Script.defaultDirection) : Text :=
  Text.join "\n"
    (Script.header title direction ++ Script.declareAll 0 g.elements ++ [[]] ++
      g.edges.map (Script.edgeLine g)) ++ "\n"

/-- The first end of an edge that no element declares. -/
def Graph.loose? (g : Graph) : Option Id :=
  (g.edges.flatMap fun e => [e.source, e.target]).find? fun id => !g.contains id

/-- The script of a graph, or the first end of an edge that no element declares. -/
def Graph.script? (g : Graph) (title : Text := Script.defaultTitle)
    (direction : Text := Script.defaultDirection) : Except Id Text :=
  match g.loose? with
  | some id => .error id
  | none => .ok (g.script title direction)

end JqFlow
