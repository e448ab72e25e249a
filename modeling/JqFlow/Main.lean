import JqFlow.Cli.Session

/-!
# The program

The command line on a real file system. What a command can look at is read first, the command is
run on that, and what it changed is written back. No external renderer is known here, so a diagram
is written as a script, and a script is kept where an image was asked for.
-/

namespace JqFlow

/-- A text as a string; surrogates are left out. -/
def Text.shown (t : Text) : String :=
  String.ofList (t.filterMap CodePoint.toChar?)

/-- The path of a location as a string. -/
def Location.shown (l : Location) : String :=
  (Path.ofLocation l).toText.shown

/-- What is at a location. -/
def itemAt (l : Location) : IO (Option FileItem) := do
  let place ← IO.FS.realPath l.shown
  if ← place.isDir then return some .folder
  try
    return some (.file (← IO.FS.readBinFile l.shown).toList)
  catch _ =>
    return none

/-- The locations that a path leads through. -/
def Path.trail (p : Path) (here : Location) : List Location :=
  (List.range (p.parts.length + 1)).map fun n => { p with parts := p.parts.take n }.locate here

/-- The paths that a command writes to. -/
def Command.outputs : Command → List Path
  | .render _ p _ => p :: p.scriptPath?.toList
  | .script _ (some p) _ => [p]
  | _ => []

/-- The locations that a command can look at. -/
def Command.places (c : Command) (here : Location) : List Location :=
  (Location.upward here).flatMap (fun l => [l, l ++ [Settings.fileName]]) ++
    c.outputs.flatMap fun p => p.trail here ++ (Path.ofLocation (p.locate here)).trail []

/-- The part of the file system that a command can look at. -/
def readTree (places : List Location) : IO FileTree := do
  let mut tree : FileTree := ⟨[]⟩
  for l in places do
    match ← itemAt l with
    | some item => tree := tree.put l item
    | none => pure ()
  return tree

/-- What changed between two trees, written to the file system. -/
def writeChanges (before after : FileTree) : IO Unit := do
  for (l, item) in after.entries.reverse do
    unless before.get? l = some item do
      match item with
      | .folder => IO.FS.createDirAll l.shown
      | .file content => IO.FS.writeBinFile l.shown ⟨content.toArray⟩

end JqFlow

open JqFlow

def main (args : List String) : IO UInt32 := do
  let args := args.map Text.ofString
  let here := (Path.ofText (Text.ofString (← IO.currentDir).toString)).locate []
  let width := ((← IO.getEnv "COLUMNS").bind String.toNat?).getD 80
  let places := ((Command.ofArgs? args).map fun c => c.places here).getD []
  let before ← readTree places
  let host : Host := ⟨before, here, here, [], []⟩
  let outcome := host.perform width args
  writeChanges before outcome.console.host.files
  IO.eprint outcome.console.err.shown
  IO.print outcome.console.out.shown
  return outcome.stop.status.toUInt32
