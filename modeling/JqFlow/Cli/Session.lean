import JqFlow.Cli.Steps
import JqFlow.Number.Decimal
import JqFlow.Terminal.Screen

/-!
# Sessions on a terminal

The program as it is started: with arguments, which stand for a command with options, on a terminal.
Options can stand before and after the query; after two dashes nothing is an option.

## Main definitions

- `Switch`: options
- `Given`, `readArgs?`: arguments told apart
- `Command.ofArgs?`: the command of arguments; arguments that are none are a mistake in usage
- `Host.perform`: a run with arguments
-/

namespace JqFlow

/-- What an option says. -/
inductive Switch
  | verbose (on : Bool)
  | output
  | renderer
  | layout
  | timeout
  | title
  | expandGroups (on : Bool)
  | node
  | shape
  | tree
  deriving DecidableEq

/-- Does an option take a value? -/
def Switch.takesValue : Switch → Bool
  | verbose _ | expandGroups _ | tree => false
  | _ => true

/-- The commands. -/
inductive CommandName
  | render
  | script
  | check
  | inspect
  deriving DecidableEq

namespace CommandName

/-- The command of a name. -/
def ofText? (t : Text) : Option CommandName :=
  let names : List (Text × CommandName) :=
    [("render", render), ("script", script), ("check", check), ("inspect", inspect)]
  names.lookup t

/-- The option that chooses whether the bodies of parentheses are drawn. -/
def expandSwitches : List (Text × Switch) :=
  [("--expand-subqueries", .expandGroups true), ("--no-expand-subqueries", .expandGroups false)]

/-- The options that a command has for itself. -/
def ownSwitches : CommandName → List (Text × Switch)
  | render =>
    [("-o", .output), ("--output", .output), ("--renderer", .renderer), ("--layout", .layout),
      ("--timeout", .timeout), ("--title", .title)]
  | script => [("-o", .output), ("--output", .output), ("--title", .title)]
  | check => []
  | inspect => [("--node", .node), ("--shape", .shape), ("--tree", .tree)]

/-- The options of a command. -/
def switches (c : CommandName) : List (Text × Switch) :=
  if c = .check then [] else c.ownSwitches ++ expandSwitches

end CommandName

/-- The options before the command. -/
def commonSwitches : List (Text × Switch) :=
  [("--verbose", .verbose true), ("--no-verbose", .verbose false)]

/-- Arguments told apart: options with their values, in order, and the others. -/
structure Given where
  switches : List (Switch × Text)
  operands : List Text

namespace Given

/-- One option before the others. -/
def withSwitch (g : Given) (s : Switch) (value : Text) : Given :=
  { g with switches := (s, value) :: g.switches }

/-- One operand before the others. -/
def withOperand (g : Given) (t : Text) : Given :=
  { g with operands := t :: g.operands }

/-- The last value of an option. -/
def value? (g : Given) (s : Switch) : Option Text :=
  g.switches.reverse.lookup s

/-- The values of an option. -/
def values (g : Given) (s : Switch) : List Text :=
  (g.switches.filter fun (t, _) => t = s).map Prod.snd

end Given

/-- An argument that is an option: which one, and the value that stands in the same argument. -/
def readSwitch? (names : List (Text × Switch)) (arg : Text) : Option (Switch × Option Text) :=
  let name := arg.takeWhile (· ≠ CodePoint.scalar '=')
  let after := arg.drop name.length
  match (names.filter fun (n, _) => n.length > 2).lookup name with
  | some s =>
    if after = [] then some (s, none)
    else if s.takesValue then some (s, some (after.drop 1))
    else none
  | none =>
    (names.lookup (arg.take 2)).map fun s =>
      (s, if arg.length = 2 then none else some (arg.drop 2))

/-- Does an argument stand for an option? -/
def isSwitch (arg : Text) : Bool :=
  arg.head? = some (CodePoint.scalar '-') && arg.length > 1

/-- Arguments told apart, if every option is known and has its value. Unless `mixed`, everything
from the first operand on is one. -/
def readArgs? (names : List (Text × Switch)) (mixed : Bool) : List Text → Option Given
  | [] => some ⟨[], []⟩
  | arg :: rest =>
    if arg = "--" then some ⟨[], rest⟩
    else if isSwitch arg then
      match readSwitch? names arg with
      | none => none
      | some (s, some value) => (readArgs? names mixed rest).map (·.withSwitch s value)
      | some (s, none) =>
        if s.takesValue then
          match rest with
          | [] => none
          | value :: rest => (readArgs? names mixed rest).map (·.withSwitch s value)
        else (readArgs? names mixed rest).map (·.withSwitch s [])
    else if mixed then (readArgs? names mixed rest).map (·.withOperand arg)
    else some ⟨[], arg :: rest⟩

namespace Command

/-- The last choice of whether the bodies of parentheses are drawn. -/
def lastExpand? (g : Given) : Option Bool :=
  (g.switches.reverse.findSome? fun
    | (.expandGroups on, _) => some on
    | _ => none)

/-- The settings among the options, if the time limit is a number. -/
def overrides? (g : Given) : Option Overrides := do
  let timeout ←
    match g.value? .timeout with
    | none => some none
    | some t => (Binary64.ofText? t).map fun x => some (.real x)
  return {
    renderer := g.value? .renderer
    layout := g.value? .layout
    timeout
    title := g.value? .title
    expandGroups := lastExpand? g }

/-- The command of a name with its arguments. -/
def ofGiven? (name : CommandName) (g : Given) : Option Command := do
  let [query] := g.operands | none
  let o ← overrides? g
  match name with
  | .render => return .render query (Path.ofText (← g.value? .output)) o
  | .script => return .script query ((g.value? .output).map Path.ofText) o
  | .check => return .check query
  | .inspect =>
    let shapes ← (g.values .shape).mapM Shape.ofName?
    return .inspect query (g.value? .node) shapes (g.value? .tree).isSome o

/-- The file that a command writes to. -/
def output? : Command → Option Path
  | render _ p _ => some p
  | script _ p _ => p
  | _ => none

/-- The command that arguments ask for, if they do. -/
def ofArgs? (args : List Text) : Option Command := do
  let common ← readArgs? commonSwitches false args
  match common.operands with
  | [] => none
  | command :: args =>
    let name ← CommandName.ofText? command
    ofGiven? name (← readArgs? name.switches true args)

end Command

/-- The status of a run that is a mistake in usage. -/
def usageStatus : Nat := 2

/-- A run of the program with arguments, on a terminal of a width. The file that is to be written is
looked up before anything else is done. What is there does not matter, but its path has to be one that
the system can be asked for. -/
def Host.perform (h : Host) (width : Nat) (args : List Text) : Outcome :=
  match Command.ofArgs? args with
  | none => ⟨.exit usageStatus, .start width h⟩
  | some command =>
    match command.output?.bind fun p => p.toText.argumentFault? with
    | some e => ⟨.failure (.render (.argument e)), .start width h⟩
    | none => command.outcome width h

end JqFlow
