import JqFlow.Grammar.Parser
import JqFlow.Settings

/-!
# Diagrams on request

Checking and drawing a query for a caller who wants an answer in every case: what is wrong with a
query, or with the rendering, is part of the answer. Nothing else is left of a request.

## Main definitions

- `Query.validate`: is a text a query?
- `Diagram`: the answer to a request for a diagram
- `Host.diagram`: the diagram of a query text
-/

namespace JqFlow

/-- Why a text is no query, if it is none. -/
def Query.validate (text : Text) : Option ParseError :=
  match Query.parse text with
  | .ok _ => none
  | .error e => some e

/-- The answer to a request for a diagram: a picture, the script with the reason why there is no
picture, or the reason why there is no diagram at all. -/
inductive Diagram
  | picture (svg : Text)
  | script (script reason : Text)
  | refused (reason : Text)
  deriving DecidableEq

namespace Diagram

/-- The picture or the script. -/
def content : Diagram → Text
  | picture svg => svg
  | script s _ => s
  | refused _ => []

/-- The name of the kind of content. -/
def kind : Diagram → Text
  | picture _ => "svg"
  | script .. => "d2"
  | refused _ => []

/-- The reason why there is no picture. -/
def reason : Diagram → Text
  | picture _ => []
  | script _ r => r
  | refused r => r

/-- Why a blank text gives no diagram. It is not even tried as a query. -/
def blankReason : Text := "query string cannot be empty"

/-- Why a text that cannot be read gives no diagram. -/
def refusal (e : ParseError) : Text :=
  "failed to parse query: " ++ e.message

end Diagram

/-- The script that draws a query. -/
def Query.script (q : Query) (s : Settings) : Text :=
  (Graph.build q s.expandGroups).script s.title

namespace Host

/-- The picture or the script of a diagram, rendered in a folder of its own. -/
def picture (h : Host) (script : Text) (s : Settings) : Except RenderError Diagram × Host :=
  let folder := h.transient ++ [h.files.fresh []]
  let output := folder ++ [Text.ofString "diagram.svg"]
  let before := h.withFiles (h.files.put folder .folder)
  let (result, after) := before.render script (Path.ofLocation output) s.renderOptions
  let answer :=
    match result with
    | .ok _ =>
      match after.files.readText output with
      | .ok svg => .ok (.picture svg)
      | .error e => .error (.file e)
    | .error e =>
      if e.keepsScript then .ok (.script script e.message.firstLine)
      else
        match e with
        | .unsupported .. => .ok (.refused e.message)
        | _ => .error e
  (answer, after.withFiles (after.files.eraseFolder folder))

/-- The diagram of a query text. -/
def diagram (h : Host) (text : Text) (s : Settings) : Except RenderError Diagram × Host :=
  if text.isBlank then (.ok (.refused Diagram.blankReason), h)
  else
    match Query.parse text with
    | .error e => (.ok (.refused (Diagram.refusal e)), h)
    | .ok q => h.picture (q.script s) s

end Host

end JqFlow
