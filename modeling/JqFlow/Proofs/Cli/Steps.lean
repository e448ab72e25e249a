import JqFlow.Cli.Steps
import JqFlow.Proofs.Rendering.Runs

/-!
# Steps of a run

What each step of a run of the program does, on any screen: whether the run goes on after it, and in
which state.

## Main definitions

- `Session.Stopped`: a run has ended, and the host is as it was

## Main statements

- `Session.run_bind`: a step after another one
- `Session.run_say`, `Session.run_onFiles`, `Session.run_ask`: messages, files and paths
- `Session.stopped_complain`: a complaint ends the run, and changes nothing but what is shown
- `Command.run_settings`, `Command.run_parse`: the settings and the query of a command
- `Command.outcome_eq`: the outcome of a command is that of its steps
-/

namespace JqFlow

/-- A run has ended before its last step, not with the status of a success, and with the host as it
was. -/
def Session.Stopped {α : Type} (h : Host) (x : Except Stop α × Console) : Prop :=
  ∃ stop, x.1 = .error stop ∧ stop.status ≠ 0 ∧ x.2.host = h

namespace Session

variable {α β : Type}

/-- A step after another one is taken if the run goes on, in the state after that one. -/
theorem run_bind (m : Session α) (f : α → Session β) (c : Console) :
    (m >>= f).run.run c =
      match m.run.run c with
      | (.ok a, c) => (f a).run.run c
      | (.error stop, c) => (.error stop, c) := by
  show StateT.bind m.run (ExceptT.bindCont f) c = _
  rw [StateT.bind]
  show (match m.run.run c with | (a, c) => ExceptT.bindCont f a c) = _
  obtain ⟨⟨stop⟩ | a, c'⟩ := m.run.run c <;> rfl

/-- A step that does not stop the run is followed by the next one. -/
theorem run_bind_of_ok {m : Session α} {c c' : Console} {a : α} (h : m.run.run c = (.ok a, c'))
    (f : α → Session β) : (m >>= f).run.run c = (f a).run.run c' := by
  rw [run_bind, h]

theorem run_get (c : Console) : (get : Session Console).run.run c = (.ok c, c) := rfl

/-- A run that has ended so has no other end. -/
theorem Stopped.status_ne_zero {h : Host} {x : Except Stop α × Console} (hx : Stopped h x)
    {stop : Stop} (hstop : x.1 = .error stop) : stop.status ≠ 0 := by
  obtain ⟨stop', hstop', hstatus, -⟩ := hx
  obtain rfl := Except.error.inj (hstop'.symm.trans hstop)
  exact hstatus

theorem stopped_failWith (f : Failure) (c : Console) :
    Stopped c.host ((failWith f : Session α).run.run c) :=
  ⟨_, rfl, Nat.one_ne_zero, rfl⟩

/-- A step that stops the run stops it also with steps after it. -/
theorem Stopped.bind {m : Session α} {h : Host} {c : Console} (hm : Stopped h (m.run.run c))
    (f : α → Session β) : Stopped h ((m >>= f).run.run c) := by
  rw [run_bind]
  obtain ⟨⟨result, c'⟩, hx⟩ : ∃ x, m.run.run c = x := ⟨_, rfl⟩
  rw [hx] at hm ⊢
  obtain ⟨stop, hstop, hstatus, hhost⟩ := hm
  obtain rfl : result = .error stop := hstop
  exact ⟨stop, rfl, hstatus, hhost⟩

/-- A message does not change the host. The run goes on after it, unless the screen refuses its
markup. -/
theorem run_say (markup : Text) (c : Console) :
    ((say markup).run.run c).2.host = c.host ∧
      (((say markup).run.run c).1 = .ok () ↔ ∃ lines, c.screen.markup markup = .ok lines) ∧
      ∀ stop, ((say markup).run.run c).1 = .error stop → stop.status ≠ 0 := by
  rw [say, sayBlock, run_bind_of_ok (run_get c)]
  cases c.screen.markup markup with
  | ok lines => exact ⟨rfl, iff_of_true rfl ⟨lines, rfl⟩, fun stop hstop => by cases hstop⟩
  | error e =>
    refine ⟨rfl, iff_of_false (fun h => by cases h) fun ⟨_, h⟩ => (by cases h), fun stop hstop => ?_⟩
    obtain rfl := Except.error.inj hstop
    exact Nat.one_ne_zero

/-- A complaint ends the run, and changes nothing but what is shown. -/
theorem stopped_complain (message : Text) {status : Nat} (hstatus : status ≠ 0) (c : Console) :
    Stopped c.host ((complain message status : Session α).run.run c) := by
  rw [complain, run_bind_of_ok (run_get c)]
  dsimp only
  generalize "[red]✗ " ++ c.screen.escape message ++ "[/red]" = markup
  obtain ⟨hhost, -, hstop⟩ := run_say markup c
  rw [run_bind]
  generalize (say markup).run.run c = x at *
  obtain ⟨⟨stop⟩ | _, c'⟩ := x
  · exact ⟨stop, rfl, hstop stop rfl, hhost⟩
  · exact ⟨_, rfl, hstatus, hhost⟩

/-- An operation on files ends the run if it fails. The files are then as it has left them. -/
theorem run_onFiles (f : FileTree → Option FileError × FileTree) (c : Console) :
    (onFiles f).run.run c =
      match f c.host.files with
      | (some e, files) => (.error (.failure (.file e)), c.withFiles files)
      | (none, files) => (.ok (), c.withFiles files) := by
  rw [onFiles, run_bind_of_ok (run_get c)]
  obtain ⟨⟨e, files⟩, hx⟩ : ∃ x, f c.host.files = x := ⟨_, rfl⟩
  rw [hx]
  cases e <;> rfl

/-- A path that the system can be asked for does not stop the run. -/
theorem run_ask {p : Path} (h : Text.CanPass p.toText) (c : Console) :
    (ask p).run.run c = (.ok (), c) := by
  rw [ask, Text.argumentFault?_eq_none_iff.mpr h]
  rfl

theorem stopped_ask {p : Path} (h : ¬ Text.CanPass p.toText) (c : Console) :
    Stopped c.host ((ask p).run.run c) := by
  obtain ⟨e, he⟩ := Option.ne_none_iff_exists'.mp (mt Text.argumentFault?_eq_none_iff.mp h)
  rw [ask, he]
  exact stopped_failWith _ c

end Session

namespace Command

open Session

/-- The settings of a command are those that count in the working folder, with the ones of the command
line in their place. -/
theorem run_settings {o : Overrides} {c : Console} {s : Settings}
    (h : c.host.files.settings c.host.here = .ok s) :
    (settings o).run.run c = (.ok (s.override o), c) := by
  rw [settings, run_bind_of_ok (run_get c)]
  dsimp only
  rw [h]
  rfl

theorem stopped_settings {c : Console} {e : SettingsError}
    (h : c.host.files.settings c.host.here = .error e) (o : Overrides) :
    Stopped c.host ((settings o).run.run c) := by
  rw [settings, run_bind_of_ok (run_get c)]
  dsimp only
  rw [h]
  dsimp only
  split
  · exact stopped_complain _ Nat.one_ne_zero c
  · exact stopped_failWith _ c

/-- The query of a command is that of its text. -/
theorem run_parse {text : Text} {q : Query} (h : Query.parse text = .ok q) (c : Console) :
    (parse text).run.run c = (.ok q, c) := by
  rw [parse, h]
  rfl

theorem stopped_parse {text : Text} {e : ParseError} (h : Query.parse text = .error e)
    (c : Console) : Stopped c.host ((parse text).run.run c) := by
  rw [parse, h]
  exact stopped_complain _ Nat.one_ne_zero c

/-- A run takes the steps of its command. It succeeds if they all are taken, or if they stop it with
the status of a success. -/
theorem outcome_eq (command : Command) (screen : Screen) (h : Host) :
    (command.outcome screen h).console = (command.perform.run.run (.start screen h)).2 ∧
      ((command.outcome screen h).stop.status = 0 ↔
        (command.perform.run.run (.start screen h)).1 = .ok () ∨
          ∃ stop, (command.perform.run.run (.start screen h)).1 = .error stop ∧
            stop.status = 0) := by
  rw [outcome]
  generalize command.perform.run.run (.start screen h) = x
  obtain ⟨⟨stop⟩ | _, c⟩ := x
  · exact ⟨rfl, by simp⟩
  · exact ⟨rfl, by simp [Stop.status]⟩

end Command

end JqFlow
