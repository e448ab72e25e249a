import JqFlow.Rendering.RenderError

/-!
# Rendering

A script is written to the output itself, or handed to a renderer in a transient file. If that fails
the script is kept beside the output.

## Main definitions

- `RenderOptions`, `Rendered`: what rendering needs and what it gives
- `Host.render`: rendering
-/

namespace JqFlow

/-- How to render: by which renderer, with which layout engine, and for how long at most. -/
structure RenderOptions where
  renderer : Text := "d2"
  layout : Option Text := some (Text.ofString "elk")
  timeout : Option Seconds := none

/-- A file that was rendered. -/
structure Rendered where
  output : Path
  script : Option Path
  prints : Text
  deriving DecidableEq

namespace Host

/-- The host with another file tree. -/
def withFiles (h : Host) (files : FileTree) : Host := { h with files }

/-- The script kept beside the output, and the path of it. -/
def keepScript (h : Host) (script : Text) (output : Location) : Except RenderError Path × Host :=
  let output := Path.ofLocation output
  match output.scriptPath? with
  | none => (.error (.nameless output), h)
  | some p =>
    match h.files.writeTextAt p.parts script with
    | (some e, files) => (.error (.file e), h.withFiles files)
    | (none, files) => (.ok p, h.withFiles files)

/-- The script kept, and then the error that names the path of it. -/
def keepAndFail (h : Host) (script : Text) (output : Location) (error : Path → RenderError) :
    RenderError × Host :=
  match h.keepScript script output with
  | (.error e, h) => (e, h)
  | (.ok p, h) => (error p, h)

/-- A run of a renderer on a script that is in a file. -/
def renderFile (h : Host) (script : Text) (source output : Location) (r : Renderer)
    (o : RenderOptions) : Except RenderError Rendered × Host :=
  let out := Path.ofLocation output
  let fail (h : Host) (status : Option Int) (prints : Text) :=
    let (e, h) := h.keepAndFail script output (.failed o.renderer status prints)
    (Except.error e, h)
  match h.run r o.layout source output o.timeout with
  | (.refused e, h) => (.error (.argument e), h)
  | (.unmeasurable e, h) => (.error (.clock e), h)
  | (.unreadable e, h) => (.error (.file e), h)
  | (.timedOut, h) =>
    fail h none ("no result after " ++ ((o.timeout.map Seconds.toText).getD []) ++ " seconds")
  | (.finished status prints, h) =>
    if status = 0 then (.ok ⟨out, none, prints⟩, h) else fail h (some status) prints

/-- The place of a transient file with a script: a name that nothing has, nor the output. -/
def transientScript (h : Host) (output : Location) : Location :=
  h.transient ++ [(h.files.put output (.file [])).fresh OutputFormat.script.suffix]

/-- A run of a renderer on a transient file with the script. The file is removed after the run; a
script that has no bytes is not run, and its file stays. -/
def renderTransient (h : Host) (script : Text) (output : Location) (r : Renderer)
    (o : RenderOptions) : Except RenderError Rendered × Host :=
  let source := h.transientScript output
  match h.files.writeTextAt source script with
  | (some e, files) => (.error (.file e), h.withFiles files)
  | (none, files) =>
    let (result, h) := (h.withFiles files).renderFile script source output r o
    (result, h.withFiles (h.files.erase source))

/-- Rendering a script to an output whose folder there is. -/
def renderTo (h : Host) (script : Text) (output : Location) (format : OutputFormat)
    (o : RenderOptions) : Except RenderError Rendered × Host :=
  let out := Path.ofLocation output
  match format with
  | .script =>
    match h.files.writeTextAt output script with
    | (some e, files) => (.error (.file e), h.withFiles files)
    | (none, files) => (.ok ⟨out, some out, []⟩, h.withFiles files)
  | _ =>
    match h.renderer? o.renderer with
    | some r => h.renderTransient script output r o
    | none =>
      let (e, h) := h.keepAndFail script output fun kept => .notFound o.renderer kept out
      (.error e, h)

/-- Rendering a script to an output. The suffix is looked at before anything else, and then the parts
of the path, which the system has to be asked for; then the folders around the output are made. -/
def render (h : Host) (script : Text) (output : Path) (o : RenderOptions) :
    Except RenderError Rendered × Host :=
  match output.format? with
  | none => (.error (.unsupported output.formatSuffix OutputFormat.suffixes), h)
  | some format =>
    match output.parts.findSome? Text.argumentFault? with
    | some e => (.error (.argument e), h)
    | none =>
      let location := output.locate h.here
      match h.files.makeFolders [] (Path.ofLocation location.dropLast) with
      | (some e, files) => (.error (.file e), h.withFiles files)
      | (none, files) => (h.withFiles files).renderTo script location format o

end Host

end JqFlow
