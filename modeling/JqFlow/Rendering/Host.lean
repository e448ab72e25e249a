import JqFlow.Files.Tree
import JqFlow.Rendering.Wait

/-!
# Hosts

What is around a run of the program: a file tree, the folder that relative paths start from, and the
renderers that can be run. A renderer is known by what it does when it runs.

## Main definitions

- `Renderer`: what a run of an external tool does
- `Text.argumentFault?`: why a text cannot be handed to a tool
- `commandLine`: how a renderer is called
- `Host`: files and renderers
- `Host.run`: a run of a renderer
-/

namespace JqFlow

/-- What an external tool does when it runs: how long it takes, what it leaves in its output file,
what it prints, and the status it ends with. -/
structure Renderer where
  executable : Text
  duration : Seconds
  leaves : Option Bytes
  prints : Bytes
  status : Int

/-- Why a text cannot be handed to a tool as an argument. -/
inductive ArgumentFault
  | unencodable
  | embeddedNull
  deriving DecidableEq

/-- A fault of an argument in words; one of them has none of its own. -/
def ArgumentFault.message : ArgumentFault → Text
  | unencodable => []
  | embeddedNull => "embedded null byte"

/-- Has a code point bytes in an argument? The surrogates U+DC80 to U+DCFF stand for one byte each;
the others have none. -/
def CodePoint.isPassable : CodePoint → Bool
  | scalar _ => true
  | surrogate i => 0x480 ≤ i.val && i.val < 0x500

/-- Why a text cannot be an argument, if it cannot: its bytes end where a zero is. -/
def Text.argumentFault? (t : Text) : Option ArgumentFault :=
  if !t.all CodePoint.isPassable then some .unencodable
  else if t.contains (.scalar '\x00') then some .embeddedNull
  else none

/-- The arguments of a renderer. An empty layout is none. -/
def renderArgs (layout : Option Text) (script output : Path) : List Text :=
  match layout with
  | some layout =>
    if layout = [] then [script.toText, output.toText]
    else ["--layout", layout, script.toText, output.toText]
  | none => [script.toText, output.toText]

/-- How a renderer is called. -/
def commandLine (executable : Text) (layout : Option Text) (script output : Path) : List Text :=
  executable :: renderArgs layout script output

/-- Files, the folder that relative paths start from, the folder for transient files, renderers by
the names they are asked for with, and the commands that were run, the first one first. -/
structure Host where
  files : FileTree
  here : Location
  transient : Location
  renderers : List (Text × Renderer)
  commands : List (List Text)

/-- How a run of a renderer ended. -/
inductive RunResult
  | refused (e : ArgumentFault)
  | finished (status : Int) (output : Text)
  | timedOut
  | unreadable (e : FileError)
  | unmeasurable (e : ClockFault)

namespace Host

/-- The renderer of a name. -/
def renderer? (h : Host) (name : Text) : Option Renderer :=
  h.renderers.lookup name

/-- The host after a renderer left what it leaves at a location. A folder stays what it is. -/
def leave (h : Host) (l : Location) (content : Option Bytes) : Host :=
  match content with
  | none => h
  | some content =>
    if h.files.get? l = some .folder then h
    else { h with files := h.files.put l (.file content) }

/-- The end of a run with a time limit. The clock has to be set before the renderer can do anything,
and what it prints is read once it has ended. -/
def outcome (r : Renderer) (limit : Option Seconds) : RunResult :=
  match limit.bind Seconds.unmeasurable? with
  | some e => .unmeasurable e
  | none =>
    if (limit.map fun limit => limit.le r.duration).getD false then .timedOut
    else
      match FileTree.textOf r.prints with
      | .ok output => .finished r.status output
      | .error e => .unreadable e

/-- A run of a renderer on a script with a time limit, and the host after it. With an argument that
cannot be handed over the renderer does not begin to run. -/
def run (h : Host) (r : Renderer) (layout : Option Text) (source output : Location)
    (limit : Option Seconds) : RunResult × Host :=
  let script := Path.ofLocation source
  let out := Path.ofLocation output
  match (renderArgs layout script out).findSome? Text.argumentFault? with
  | some e => (.refused e, h)
  | none =>
    let h := { h with commands := h.commands ++ [commandLine r.executable layout script out] }
    (outcome r limit, h.leave output r.leaves)

end Host

end JqFlow
