import JqFlow.Rendering.Format
import JqFlow.Rendering.Host
import JqFlow.Text.Visible

/-!
# Rendering errors

Why a diagram is not rendered. After two of the causes the script of the diagram has been kept in a
file, so that it can be rendered by hand.

## Main definitions

- `RenderError`, `RenderError.message`: causes and their texts
- `RenderError.keepsScript`: was the script kept?
-/

namespace JqFlow

/-- Why a diagram is not rendered. -/
inductive RenderError
  /-- The suffix is none of those that are supported. -/
  | unsupported (suffix : Text) (supported : List Text)
  /-- There is no such renderer. -/
  | notFound (renderer : Text) (script output : Path)
  /-- The renderer ended with a status, or, without one, ran out of time. -/
  | failed (renderer : Text) (status : Option Int) (output : Text) (script : Path)
  /-- The path has no name, so that nothing can be kept beside it. -/
  | nameless (p : Path)
  | file (e : FileError)
  | argument (e : ArgumentFault)
  | clock (e : ClockFault)
  deriving DecidableEq

namespace RenderError

/-- The texts in order, each once. -/
def sortedChoices (choices : List Text) : List Text :=
  choices.eraseDups.mergeSort Text.le

/-- How the run of a renderer ended. -/
def showStatus : Option Int → Text
  | none => "timed out"
  | some status => "exited with status " ++ Text.ofInt status

/-- A file error in words; most have none of their own. -/
def showFileError : FileError → Text
  | .undecodable e => e.message
  | _ => []

/-- A cause in words. -/
def message : RenderError → Text
  | unsupported suffix supported =>
    let shown : Text := if suffix = [] then "(none)" else suffix
    "unsupported output format '" ++ shown ++ "' (expected one of: " ++
      Text.join ", " (sortedChoices supported) ++ ")"
  | notFound renderer script output =>
    "renderer '" ++ renderer ++ "' not found on PATH\nD2 script saved to: " ++ script.toText ++
      "\nInstall D2 (https://d2lang.com) and render manually with:\n  " ++ renderer ++ " " ++
      script.toText ++ " " ++ output.toText
  | failed renderer status output script =>
    "renderer '" ++ renderer ++ "' " ++ showStatus status ++ "\n" ++
      Text.trimEnd CodePoint.isBlank output ++ "\nD2 script saved to: " ++ script.toText
  | nameless p => "PosixPath(" ++ Visible.quote p.toText ++ ") has an empty name"
  | file e => showFileError e
  | argument e => e.message
  | clock e => e.message

/-- Was the script kept? -/
def keepsScript : RenderError → Bool
  | notFound .. | failed .. => true
  | _ => false

end RenderError

end JqFlow
