import JqFlow.Files.Tree
import JqFlow.Graph.Script
import JqFlow.Rendering.Render
import JqFlow.Toml.Document

/-!
# Settings

A project can say in its `pyproject.toml` how its diagrams are to be drawn and rendered. The file is
looked for in a folder and in those around it, and the nearest one counts.

## Main definitions

- `Settings`: how to draw and render
- `Settings.ofTable`, `Settings.ofBytes`: reading a settings file
- `FileTree.settingsFile?`, `FileTree.settingsFileFrom?`: the settings file that counts for a folder
- `FileTree.settings`: the settings that count in a folder
- `SettingsError`: why there are none
-/

namespace JqFlow

/-- How to draw and render, and the folder whose settings these are. -/
structure Settings where
  renderer : Text := "d2"
  layout : Option Text := some (Text.ofString "elk")
  title : Text := Script.defaultTitle
  timeout : Option Seconds := none
  expandGroups : Bool := false
  projectRoot : Option Location := none

/-- The part of the settings that matters for rendering. -/
def Settings.renderOptions (s : Settings) : RenderOptions :=
  ⟨s.renderer, s.layout, s.timeout⟩

/-- The keys of a settings file that are read. -/
inductive SettingsKey
  | renderer
  | layout
  | title
  | timeout
  | expandGroups
  deriving DecidableEq

namespace SettingsKey

/-- A key as it is written. -/
def name : SettingsKey → Text
  | renderer => "renderer"
  | layout => "layout"
  | title => "title"
  | timeout => "timeout"
  | expandGroups => "expand_subqueries"

/-- What the value of a key has to be. -/
def expectation : SettingsKey → Text
  | renderer | layout | title => "non-empty string"
  | timeout => "positive number of seconds"
  | expandGroups => "boolean"

end SettingsKey

/-- The kinds of values, as they are named in messages. -/
def Toml.Value.kindName : Toml.Value → Text
  | .text _ => "str"
  | .whole _ => "int"
  | .real _ => "float"
  | .bool _ => "bool"
  | .dateTime => "datetime.datetime"
  | .date => "datetime.date"
  | .time => "datetime.time"
  | .list _ => "list"
  | .table _ => "dict"

/-- Why a settings file gives no settings. -/
inductive SettingsError
  | undecodable (e : Utf8.DecodeError)
  | malformed (file : Location)
  | tooManyDigits (count : Nat)
  /-- What should be the table of all tools is a value of another kind. -/
  | toolsNoTable (kind : Text)
  /-- What should be the table of this tool is a value of another kind. -/
  | noTable
  | invalid (key : SettingsKey)
  | timeoutTooLarge
  deriving DecidableEq

/-- A cause in words. -/
def SettingsError.message : SettingsError → Text
  | undecodable e => e.message
  | malformed file => "Invalid TOML in " ++ (Path.ofLocation file).toText
  | tooManyDigits count =>
    "Exceeds the limit (" ++ Text.ofNat Toml.digitLimit ++
      " digits) for integer string conversion: value has " ++ Text.ofNat count ++
      " digits; use sys.set_int_max_str_digits() to increase the limit"
  | toolsNoTable kind => "'" ++ kind ++ "' object has no attribute 'get'"
  | noTable => "Invalid [tool.jqviz]: expected a table"
  | invalid key => "Invalid [tool.jqviz]." ++ key.name ++ ": expected " ++ key.expectation
  | timeoutTooLarge => "int too large to convert to float"

/-- Is it reported as an error in the settings? The others come out of what reads the file. -/
def SettingsError.isReported : SettingsError → Bool
  | malformed _ | noTable | invalid _ => true
  | _ => false

namespace Settings

/-- The text of a key, if the key is there. -/
def textOf? (fields : Toml.Table) (key : SettingsKey) (canBeEmpty : Bool) :
    Except SettingsError (Option Text) :=
  match fields.get? key.name with
  | none => .ok none
  | some (.text t) => if t = [] && !canBeEmpty then .error (.invalid key) else .ok (some t)
  | some _ => .error (.invalid key)

/-- The time limit, if there is one. -/
def timeoutOf? (fields : Toml.Table) : Except SettingsError (Option Seconds) :=
  match fields.get? SettingsKey.timeout.name with
  | none => .ok none
  | some (.whole n) =>
    if n ≤ 0 then .error (.invalid .timeout)
    else
      match Binary64.ofInt n with
      | .infinite _ => .error .timeoutTooLarge
      | x => .ok (some (.real x))
  | some (.real x) => if x.le .zero then .error (.invalid .timeout) else .ok (some (.real x))
  | some _ => .error (.invalid .timeout)

/-- Are the bodies of parentheses to be drawn? -/
def expandGroupsOf (fields : Toml.Table) : Except SettingsError Bool :=
  match fields.get? SettingsKey.expandGroups.name with
  | none => .ok ({} : Settings).expandGroups
  | some (.bool b) => .ok b
  | some _ => .error (.invalid .expandGroups)

/-- The layout engine. An empty text leaves the choice to the renderer. -/
def layoutOf (fields : Toml.Table) : Except SettingsError (Option Text) :=
  (textOf? fields .layout true).map fun
    | none => ({} : Settings).layout
    | some layout => if layout = [] then none else some layout

/-- The settings that a table of keys gives. -/
def ofFields (root : Location) (fields : Toml.Table) : Except SettingsError Settings := do
  let layout ← layoutOf fields
  let expandGroups ← expandGroupsOf fields
  let renderer ← textOf? fields .renderer false
  let title ← textOf? fields .title false
  let timeout ← timeoutOf? fields
  return {
    renderer := renderer.getD ({} : Settings).renderer
    layout
    title := title.getD ({} : Settings).title
    timeout
    expandGroups
    projectRoot := some root }

/-- The table of this tool in a document. What is not there is empty. -/
def fieldsOf (doc : Toml.Table) : Except SettingsError Toml.Table :=
  match doc.get? "tool" with
  | none => .ok []
  | some (.table tools) =>
    match Toml.Table.get? tools "jqviz" with
    | none => .ok []
    | some (.table fields) => .ok fields
    | some _ => .error .noTable
  | some v => .error (.toolsNoTable v.kindName)

/-- The settings that a document gives. -/
def ofTable (root : Location) (doc : Toml.Table) : Except SettingsError Settings := do
  ofFields root (← fieldsOf doc)

/-- The settings that the content of a file gives. No file is refused because its values are nested too
deeply. -/
def ofBytes (file : Location) (content : Bytes) : Except SettingsError Settings :=
  match Utf8.decode content with
  | .error e => .error (.undecodable e)
  | .ok text =>
    match Toml.parse text with
    | .error .malformed => .error (.malformed file)
    | .error (.tooManyDigits count) => .error (.tooManyDigits count)
    | .ok doc => ofTable file.dropLast doc

/-- The name of a settings file. -/
def fileName : Text := "pyproject.toml"

end Settings

/-- A location and those around it, up to the top. -/
def Location.upward (l : Location) : List Location :=
  (List.range (l.length + 1)).reverse.map fun n => l.take n

namespace FileTree

/-- The settings file that counts for a folder: the one in it, or else the one that counts for the
folder around it. There is none around the top. -/
def settingsFile? (t : FileTree) (l : Location) : Option Location :=
  let file := l ++ [Settings.fileName]
  if t.isFile file then some file
  else if l.dropLast = l then none
  else t.settingsFile? l.dropLast
termination_by l.length
decreasing_by
  next hdrop =>
    rw [List.length_dropLast]
    have hlength : l.length ≠ 0 := fun h => hdrop (by rw [List.length_eq_zero_iff.mp h]; rfl)
    omega

/-- The settings file that counts where a path leads to, or without a path in the folder `here`. -/
def settingsFileFrom? (t : FileTree) (here : Location) (start : Option Path) : Option Location :=
  t.settingsFile? ((start.map fun p => p.locate here).getD here)

/-- The settings that count in the folder `here`. -/
def settings (t : FileTree) (here : Location) : Except SettingsError Settings :=
  match t.settingsFileFrom? here none with
  | none => .ok {}
  | some file =>
    match t.get? file with
    | some (.file content) => Settings.ofBytes file content
    | _ => .ok {}

end FileTree

end JqFlow
