import JqFlow.Cli.Command
import JqFlow.Diagram
import JqFlow.Graph.View

/-!
# Steps of a run

A run of the program: it reads and writes files, shows results and messages on a screen, and ends with
a status, or with a failure that nothing in it handles.

## Main definitions

- `Console`, `Stop`, `Session`: the state of a run, its end, and its steps
- `Command.perform`: the steps of a command
- `Outcome`, `Command.outcome`: what a run leaves
-/

namespace JqFlow

/-- A failure that ends a run. -/
inductive Failure
  | settings (e : SettingsError)
  | render (e : RenderError)
  | file (e : FileError)
  | markup (e : MarkupError)

/-- The end of a run before its last step. -/
inductive Stop
  | exit (status : Nat)
  | failure (f : Failure)

/-- The state of a run: the screen, the host, and what was shown so far of results and of messages. -/
structure Console where
  screen : Screen
  host : Host
  out : Text
  err : Text

/-- The state at the start of a run. -/
def Console.start (screen : Screen) (h : Host) : Console :=
  ⟨screen, h, [], []⟩

/-- The state with other files. -/
def Console.withFiles (c : Console) (files : FileTree) : Console :=
  { c with host := c.host.withFiles files }

@[simp] theorem Console.withFiles_screen (c : Console) (files : FileTree) :
    (c.withFiles files).screen = c.screen := rfl

@[simp] theorem Console.withFiles_host (c : Console) (files : FileTree) :
    (c.withFiles files).host = c.host.withFiles files := rfl

/-- Steps of a run. -/
abbrev Session := ExceptT Stop (StateM Console)

namespace Session

/-- An end with a failure. -/
def failWith {α : Type} (f : Failure) : Session α := throw (.failure f)

/-- An end with a status. -/
def exitWith {α : Type} (status : Nat) : Session α := throw (.exit status)

/-- A result as it is. A text with surrogates cannot be printed. -/
def emit (t : Text) : Session Unit :=
  match Utf8.encode? t with
  | none => failWith (.file .unencodable)
  | some _ => modify fun c => { c with out := c.out ++ t }

/-- Lines with their ends. -/
def ended (lines : List Text) : Text :=
  lines.flatMap (· ++ [CodePoint.scalar '\n'])

/-- A result on the screen. -/
def printBlock (b : Block) : Session Unit :=
  match b with
  | .ok lines => emit (ended lines)
  | .error e => failWith (.markup e)

/-- Results on the screen. -/
def print (view : Screen → List Block) : Session Unit := do
  (view (← get).screen).forM printBlock

/-- A message on the screen. -/
def sayBlock (block : Screen → Block) : Session Unit := do
  match block (← get).screen with
  | .ok lines => modify fun c => { c with err := c.err ++ ended lines }
  | .error e => failWith (.markup e)

/-- A message in markup. -/
def say (markup : Text) : Session Unit :=
  sayBlock fun screen => screen.markup markup

/-- An empty line among the messages. -/
def sayBlank : Session Unit := sayBlock Screen.blank

/-- A message that something is wrong, and the end with a status. -/
def complain {α : Type} (message : Text) (status : Nat) : Session α := do
  let screen := (← get).screen
  say ("[red]✗ " ++ screen.escape message ++ "[/red]")
  exitWith status

/-- An operation on files. -/
def onFiles (f : FileTree → Option FileError × FileTree) : Session Unit := do
  let c ← get
  let (e, files) := f c.host.files
  set (c.withFiles files)
  match e with
  | some e => failWith (.file e)
  | none => return ()

/-- Any operation on a path needs one that the system can be asked for. -/
def ask (p : Path) : Session Unit :=
  match p.toText.argumentFault? with
  | some e => failWith (.render (.argument e))
  | none => return ()

end Session

open Session

namespace Command

/-- The settings that count, with those of the command in their place. -/
def settings (o : Overrides) : Session Settings := do
  let h := (← get).host
  match h.files.settings h.here with
  | .ok s => return s.override o
  | .error e => if e.isReported then complain e.message 1 else failWith (.settings e)

/-- The query of a text. -/
def parse (text : Text) : Session Query :=
  match Query.parse text with
  | .ok q => return q
  | .error e => complain e.message 1

/-- The graph of a query text. -/
def graph (text : Text) (s : Settings) : Session Graph := do
  return Graph.build (← parse text) s.expandGroups

/-- Messages after a rendering that failed. -/
def reportFailure (e : RenderError) : Session Unit :=
  match e with
  | .unsupported .. => complain e.message 2
  | .notFound _ kept _ | .failed _ _ _ kept => do
    sayBlock fun screen =>
      screen.framed "[bold red]Rendering failed[/bold red]" (screen.escape e.message)
    say ("[yellow]D2 script saved to:[/yellow] " ++ kept.toText)
    exitWith 1
  | e => failWith (.render e)

/-- Rendering the diagram of a query to a file. -/
def performRender (query : Text) (output : Path) (o : Overrides) : Session Unit := do
  let s ← settings o
  sayBlank
  let q ← parse query
  say ("[cyan]Rendering to:[/cyan] " ++ output.toText)
  let c ← get
  let (result, host) := c.host.render (q.script s) output s.renderOptions
  set { c with host }
  match result with
  | .error e => reportFailure e
  | .ok r => do
    sayBlank
    say ("[green]✓ Diagram written to " ++ r.output.toText ++ "[/green]")
    sayBlank

/-- The message after a script was written to a file. -/
def writtenMessage (p : Path) : Text :=
  "[green]" ++ ("✓ D2 script written to " ++ p.toText) ++ "[/green]"

/-- Writing a script to a file. The folders around it are made. -/
def saveScript (p : Path) (script : Text) : Session Unit := do
  let here := (← get).host.here
  ask p.parent
  onFiles fun t => t.makeFolders here p.parent
  ask p
  onFiles fun t => t.writeText here p script
  say (writtenMessage p)

/-- Printing the script of a query, or writing it to a file. -/
def performScript (query : Text) (output : Option Path) (o : Overrides) : Session Unit := do
  let s ← settings o
  let q ← parse query
  match output with
  | none => emit (q.script s)
  | some p => saveScript p (q.script s)

/-- Checking a query. -/
def performCheck (query : Text) : Session Unit := do
  let s ← settings {}
  sayBlank
  say "[cyan]Parsing query...[/cyan]"
  let g ← graph query s
  sayBlank
  sayBlock fun screen => screen.framed "[bold]Query[/bold]" (screen.escape query)
  sayBlock fun screen => (g.summary.view screen).foldl
    (fun before b => do return (← before) ++ (← b)) (.ok [])
  sayBlank
  say "[green]✓ Query is valid[/green]"
  sayBlank

/-- Listing the elements of the diagram of a query, or showing one of them, or the nesting. -/
def performInspect (query : Text) (node : Option Text) (shapes : List Shape) (tree : Bool)
    (o : Overrides) : Session Unit := do
  let s ← settings o
  let g ← graph query s
  match node with
  | some id =>
    match g.inspect? id with
    | none => complain ("Node not found: " ++ id) 1
    | some d => print fun screen => d.view screen
  | none =>
    if tree then print fun screen => g.outline.view screen
    else print fun screen => ElementRow.view screen (g.rows shapes)

/-- The steps of a command. -/
def perform : Command → Session Unit
  | render query output o => performRender query output o
  | script query output o => performScript query output o
  | check query => performCheck query
  | inspect query node shapes tree o => performInspect query node shapes tree o

end Command

/-- What a run leaves: its end, and the console with the host. -/
structure Outcome where
  stop : Stop
  console : Console

/-- The status that a run ends with. A failure counts as one. -/
def Stop.status : Stop → Nat
  | exit n => n
  | failure _ => 1

/-- A run of a command. -/
def Command.outcome (command : Command) (screen : Screen) (h : Host) : Outcome :=
  match (command.perform).run.run (Console.start screen h) with
  | (.ok (), c) => ⟨.exit 0, c⟩
  | (.error stop, c) => ⟨stop, c⟩

end JqFlow
