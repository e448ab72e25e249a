import JqFlow.Proofs.Cli.Steps
import JqFlow.Proofs.Rendering.Answers
import JqFlow.Proofs.Rendering.Outcomes
import JqFlow.Proofs.Terminal.Markup

/-!
# Scripts written to files

The command that writes the script of a query to a file. Settings that do not load and a text that is
no query end it before anything is written. After that the file is written in any case, and only then
it turns out whether the script has bytes, and whether the screen shows the path in the last message;
so the command can fail and leave a file that is empty, or one that is as it should be.

## Main definitions

- `Host.Asks`: a script that a command asks for
- `Host.CanWrite`: can a file be written?

## Main statements

- `Command.saveScript_of_canWrite`: a file that is written, and how this ends
- `Command.outcome_script`: when the command succeeds, and what is in the files in all cases

## Design notes

The screen is any one that refuses closing tags that match no open one. The path is put into the last
message as it is, so what is in brackets in it is taken for tags; which other paths a screen shows is up
to the screen.
-/

namespace JqFlow

/-- A file can be written: its path is one that the system can be asked for, the folders around it can
be made, and it is none of them, nor another folder. -/
structure Host.CanWrite (h : Host) (p : Path) : Prop where
  passable : p.toText.CanPass
  folder : (h.files.makeFolders h.here p.parent).1 = none
  target : (h.files.makeFolders h.here p.parent).2.get? (p.locate h.here) ≠ some .folder

/-- A script is asked for with settings and a query: the settings load, and the text is that of the
query. -/
structure Host.Asks (h : Host) (text : Text) (o : Overrides) (s : Settings) (q : Query) : Prop where
  settings : (h.files.settings h.here).map (·.override o) = .ok s
  query : Query.parse text = .ok q

/-- The settings and the query are no choice. -/
theorem Host.Asks.unique {h : Host} {text : Text} {o : Overrides} {s s' : Settings} {q q' : Query}
    (hasks : h.Asks text o s q) (hasks' : h.Asks text o s' q') : s' = s ∧ q' = q :=
  ⟨Except.ok.inj (hasks'.settings.symm.trans hasks.settings),
    Except.ok.inj (hasks'.query.symm.trans hasks.query)⟩

/-- What is at a location is as before, or it is a folder where nothing was. -/
def FileTree.KeptButFolders (before after : FileTree) (l : Location) : Prop :=
  after.get? l = before.get? l ∨ before.get? l = none ∧ after.get? l = some .folder

/-- What a text closes, it also closes after text without brackets. -/
theorem Text.ClosesOther.prepend {t opened u : Text} (h : t.ClosesOther opened)
    (hbracket : .scalar '[' ∉ u) (hlast : u.getLast? ≠ some (.scalar '\\')) :
    (u ++ t).ClosesOther opened := by
  obtain ⟨before, name, after, rfl, hbefore, hend, hname⟩ := h
  refine ⟨u ++ before, name, after, by simp only [List.append_assoc], ?_, ?_, hname⟩
  · exact fun hmem => (List.mem_append.mp hmem).elim hbracket hbefore
  · rw [List.getLast?_append]
    cases hb : before.getLast? with
    | none => exact hlast
    | some c => exact fun hc => hend (hb.trans hc)

/-- Making folders keeps everything else. -/
theorem FileTree.keptButFolders_of_makeFolders {t t' : FileTree} {here : Location} {p : Path}
    {e : Option FileError} (hmake : t.makeFolders here p = (e, t')) (l : Location) :
    t.KeptButFolders t' l := by
  have hmade := t.get?_makeFoldersFrom (p.start here) false p.parts l
  rwa [← makeFolders, hmake] at hmade

/-- A path is followed to its location once the folders on the way are made. -/
theorem FileTree.follow_of_makeFolders {t t' : FileTree} {here : Location} {p : Path}
    (hhere : t.get? here = some .folder) (hmake : t.makeFolders here p.parent = (none, t')) :
    t'.follow here p = .ok (p.locate here) := by
  have hstart : t.get? (p.start here) = some .folder := by
    rw [Path.start]
    split
    · exact hhere
    · rfl
  obtain ⟨root, parts⟩ := p
  induction parts using List.reverseRecOn with
  | nil => rfl
  | append_singleton parts part _ =>
    rw [makeFolders, Path.parent, List.dropLast_concat] at hmake
    obtain ⟨hfolder, hfollow⟩ := followFrom_makeFoldersFrom hmake hstart [part]
    have hlocate : Path.locate ⟨root, parts ++ [part]⟩ here =
        Path.step (parts.foldl Path.step (Path.start ⟨root, parts ++ [part]⟩ here)) part := by
      rw [Path.locate, List.foldl_append]
      rfl
    rw [hlocate, follow]
    refine hfollow.trans ?_
    rw [followFrom, hfolder]
    rfl

namespace Command

open Session

variable {c : Console} {p : Path}

/-- The folders around a file are made first, and then the file is written. -/
theorem run_saveScript {files : FileTree} (hhere : c.host.files.get? c.host.here = some .folder)
    (hpass : p.toText.CanPass)
    (hmake : c.host.files.makeFolders c.host.here p.parent = (none, files)) (script : Text) :
    (saveScript p script).run.run c =
      match files.writeTextAt (p.locate c.host.here) script with
      | (some e, files) => (.error (.failure (.file e)), c.withFiles files)
      | (none, files) => (say (writtenMessage p)).run.run (c.withFiles files) := by
  rw [saveScript, run_bind_of_ok (run_get c), run_bind_of_ok (run_ask (Path.canPass_parent hpass) c),
    run_bind, run_onFiles, hmake]
  dsimp only
  rw [run_bind_of_ok (run_ask hpass _), run_bind, run_onFiles]
  simp only [Console.withFiles, Host.withFiles, FileTree.writeText,
    FileTree.follow_of_makeFolders hhere hmake]
  obtain ⟨⟨e, files'⟩, hx⟩ : ∃ x, files.writeTextAt (p.locate c.host.here) script = x := ⟨_, rfl⟩
  rw [hx]
  cases e <;> rfl

/-- A file that can be written is written, and nothing else is changed. How it ends depends on whether
the script has bytes and on whether the message can be shown. -/
theorem saveScript_of_canWrite (hhere : c.host.files.get? c.host.here = some .folder)
    (hcan : c.host.CanWrite p) (script : Text) :
    ∃ files,
      ((saveScript p script).run.run c).2.host = c.host.withFiles files ∧
      files.get? (p.locate c.host.here) = some (.file ((Utf8.encode? script).getD [])) ∧
      (∀ l ≠ p.locate c.host.here, c.host.files.KeptButFolders files l) ∧
      (((saveScript p script).run.run c).1 = .ok () ↔
        (∃ content, Utf8.encode? script = some content) ∧
          ∃ lines, c.screen.markup (writtenMessage p) = .ok lines) ∧
      ∀ stop, ((saveScript p script).run.run c).1 = .error stop → stop.status ≠ 0 := by
  obtain ⟨⟨e, files⟩, hmake⟩ : ∃ x, c.host.files.makeFolders c.host.here p.parent = x := ⟨_, rfl⟩
  obtain ⟨hpass, hfolder, htarget⟩ := hcan
  rw [hmake] at hfolder htarget
  obtain rfl : e = none := hfolder
  have hnil : p.locate c.host.here ≠ [] := fun hnil => htarget (by rw [hnil]; rfl)
  have hkept (item : FileItem) (l : Location) (hl : l ≠ p.locate c.host.here) :
      c.host.files.KeptButFolders (files.put (p.locate c.host.here) item) l := by
    rw [FileTree.KeptButFolders, FileTree.get?_put_of_ne hl]
    exact FileTree.keptButFolders_of_makeFolders hmake l
  cases hscript : Utf8.encode? script with
  | none =>
    have hrun : (saveScript p script).run.run c = (.error (.failure (.file .unencodable)),
        c.withFiles (files.put (p.locate c.host.here) (.file []))) := by
      rw [run_saveScript hhere hpass hmake, FileTree.writeTextAt_unencodable htarget hscript]
    rw [hrun]
    refine ⟨_, rfl, FileTree.get?_put_self hnil, hkept _, ?_, fun stop hstop => ?_⟩
    · exact iff_of_false (fun h => by cases h) fun ⟨⟨_, h⟩, _⟩ => by cases h
    · obtain rfl := Except.error.inj hstop
      exact Nat.one_ne_zero
  | some content =>
    have hrun : (saveScript p script).run.run c = (say (writtenMessage p)).run.run
        (c.withFiles (files.put (p.locate c.host.here) (.file content))) := by
      rw [run_saveScript hhere hpass hmake, FileTree.writeTextAt_eq htarget hscript]
    obtain ⟨hhost, hshown, hstop⟩ := run_say (writtenMessage p)
      (c.withFiles (files.put (p.locate c.host.here) (.file content)))
    rw [Console.withFiles_screen] at hshown
    rw [hrun]
    exact ⟨_, hhost, FileTree.get?_put_self hnil, hkept _,
      hshown.trans (and_iff_right ⟨content, rfl⟩).symm, hstop⟩

/-- Where a file cannot be written, the run ends, and no file is changed. -/
theorem saveScript_of_not_canWrite (hhere : c.host.files.get? c.host.here = some .folder)
    (hcan : ¬ c.host.CanWrite p) (script : Text) :
    ∃ files, Stopped (c.host.withFiles files) ((saveScript p script).run.run c) ∧
      ∀ l, c.host.files.KeptButFolders files l := by
  by_cases hparent : p.parent.toText.CanPass
  · obtain ⟨⟨e, files⟩, hmake⟩ : ∃ x, c.host.files.makeFolders c.host.here p.parent = x := ⟨_, rfl⟩
    refine ⟨files, ?_, FileTree.keptButFolders_of_makeFolders hmake⟩
    by_cases hready : e = none ∧ p.toText.CanPass
    · obtain ⟨rfl, hpass⟩ := hready
      have htarget : files.get? (p.locate c.host.here) = some .folder := by
        by_contra hne
        exact hcan ⟨hpass, by rw [hmake], by rwa [hmake]⟩
      have hwrite : files.writeTextAt (p.locate c.host.here) script = (some .isFolder, files) := by
        rw [FileTree.writeTextAt, htarget]
      rw [run_saveScript hhere hpass hmake, hwrite]
      exact ⟨_, rfl, Nat.one_ne_zero, rfl⟩
    · rw [saveScript, run_bind_of_ok (run_get c), run_bind_of_ok (run_ask hparent c), run_bind,
        run_onFiles, hmake]
      cases e with
      | some e => exact ⟨_, rfl, Nat.one_ne_zero, rfl⟩
      | none => exact (stopped_ask (fun hpass => hready ⟨rfl, hpass⟩) (c.withFiles files)).bind _
  · refine ⟨c.host.files, ?_, fun l => .inl rfl⟩
    rw [saveScript, run_bind_of_ok (run_get c)]
    exact (stopped_ask hparent c).bind _

variable {text : Text} {o : Overrides}

/-- A script that is asked for is saved. -/
theorem run_performScript {s : Settings} {q : Query} (hasks : c.host.Asks text o s q) :
    (performScript text (some p) o).run.run c = (saveScript p (q.script s)).run.run c := by
  obtain ⟨hsettings, hquery⟩ := hasks
  cases hown : c.host.files.settings c.host.here with
  | error e =>
    rw [hown] at hsettings
    exact absurd hsettings (by simp [Except.map])
  | ok own =>
    rw [hown] at hsettings
    obtain rfl : own.override o = s := Except.ok.inj hsettings
    rw [performScript, run_bind_of_ok (run_settings hown), run_bind_of_ok (run_parse hquery c)]

/-- A script that is not asked for stops the run before anything is written. -/
theorem stopped_performScript (hasks : ¬ ∃ s q, c.host.Asks text o s q) :
    Stopped c.host ((performScript text (some p) o).run.run c) := by
  rw [performScript]
  cases hown : c.host.files.settings c.host.here with
  | error e => exact (stopped_settings hown o).bind _
  | ok own =>
    rw [run_bind_of_ok (run_settings hown)]
    cases hquery : Query.parse text with
    | error e => exact (stopped_parse hquery c).bind _
    | ok q => exact absurd ⟨_, q, by rw [hown]; rfl, hquery⟩ hasks

/-- When a script is asked for and saved without a failure. -/
theorem performScript_ok_iff (hhere : c.host.files.get? c.host.here = some .folder) :
    ((performScript text (some p) o).run.run c).1 = .ok () ↔
      (∃ s q, c.host.Asks text o s q ∧ ∃ content, Utf8.encode? (q.script s) = some content) ∧
        c.host.CanWrite p ∧ ∃ lines, c.screen.markup (writtenMessage p) = .ok lines := by
  by_cases hany : ∃ s q, c.host.Asks text o s q
  · obtain ⟨s, q, hasks⟩ := hany
    have hencode : (∃ s q, c.host.Asks text o s q ∧
        ∃ content, Utf8.encode? (q.script s) = some content) ↔
          ∃ content, Utf8.encode? (q.script s) = some content := by
      refine ⟨fun ⟨s', q', hasks', hcontent⟩ => ?_, fun hcontent => ⟨s, q, hasks, hcontent⟩⟩
      obtain ⟨rfl, rfl⟩ := hasks.unique hasks'
      exact hcontent
    rw [run_performScript hasks, hencode]
    by_cases hcan : c.host.CanWrite p
    · obtain ⟨files, -, -, -, hok, -⟩ := saveScript_of_canWrite hhere hcan (q.script s)
      rw [hok, and_iff_right hcan]
    · obtain ⟨files, ⟨stop, hstopped, -⟩, -⟩ := saveScript_of_not_canWrite hhere hcan (q.script s)
      rw [hstopped]
      exact iff_of_false (by simp) fun hall => hcan hall.2.1
  · obtain ⟨stop, hstopped, -⟩ := stopped_performScript hany
    rw [hstopped]
    exact iff_of_false (by simp) fun ⟨⟨s, q, hasks, _⟩, _⟩ => hany ⟨s, q, hasks⟩

/-- A script that is not saved without a failure never ends with the status of a success. -/
theorem performScript_status_ne_zero (hhere : c.host.files.get? c.host.here = some .folder)
    {stop : Stop} (hstop : ((performScript text (some p) o).run.run c).1 = .error stop) :
    stop.status ≠ 0 := by
  by_cases hany : ∃ s q, c.host.Asks text o s q
  · obtain ⟨s, q, hasks⟩ := hany
    rw [run_performScript hasks] at hstop
    by_cases hcan : c.host.CanWrite p
    · obtain ⟨files, -, -, -, -, hstatus⟩ := saveScript_of_canWrite hhere hcan (q.script s)
      exact hstatus stop hstop
    · obtain ⟨files, hstopped, -⟩ := saveScript_of_not_canWrite hhere hcan (q.script s)
      exact hstopped.status_ne_zero hstop
  · exact (stopped_performScript hany).status_ne_zero hstop

/-- What is in the files after a script was asked for. -/
theorem performScript_files (hhere : c.host.files.get? c.host.here = some .folder) {l : Location}
    (hl : c.host.CanWrite p → l ≠ p.locate c.host.here) :
    c.host.files.KeptButFolders ((performScript text (some p) o).run.run c).2.host.files l := by
  by_cases hany : ∃ s q, c.host.Asks text o s q
  · obtain ⟨s, q, hasks⟩ := hany
    rw [run_performScript hasks]
    by_cases hcan : c.host.CanWrite p
    · obtain ⟨files, hfiles, -, hkept, -⟩ := saveScript_of_canWrite hhere hcan (q.script s)
      rw [hfiles]
      exact hkept l (hl hcan)
    · obtain ⟨files, ⟨stop, -, -, hfiles⟩, hkept⟩ :=
        saveScript_of_not_canWrite hhere hcan (q.script s)
      rw [hfiles]
      exact hkept l
  · obtain ⟨stop, -, -, hhost⟩ := stopped_performScript (c := c) hany
    rw [hhost]
    exact .inl rfl

/-- The message is not shown if the path closes a tag other than that of the message. -/
theorem not_shows_writtenMessage {screen : Screen} (hscreen : screen.RefusesUnmatched)
    (h : p.toText.ClosesOther "green") :
    ¬ ∃ lines, screen.markup (writtenMessage p) = .ok lines := by
  have hmessage : Text.ClosesOther ("✓ D2 script written to " ++ p.toText) "green" :=
    Text.ClosesOther.prepend h (by decide) (by decide)
  obtain ⟨e, he⟩ := hscreen _ hmessage
  rintro ⟨lines, hlines⟩
  rw [writtenMessage, he] at hlines
  cases hlines

end Command

/-- On a screen that refuses closing tags that match no open one, a command that writes the script of a
query to a file succeeds exactly if the settings load, the text is a query, the script has bytes, the
file can be written, and the screen shows its path; it does not if the path closes a tag. With settings
and a query the file holds the bytes of the script, if it has any, and is empty else, whether the
command succeeds or not. Without them nothing is changed. No other file is changed in any case, nor is
this one where it cannot be written. -/
theorem Command.outcome_script {screen : Screen} (hscreen : screen.RefusesUnmatched) {h : Host}
    (hhere : h.files.get? h.here = some .folder) (text : Text) (p : Path) (o : Overrides) :
    (((Command.script text (some p) o).outcome screen h).stop.status = 0 ↔
      (∃ s q, h.Asks text o s q ∧ ∃ content, Utf8.encode? (q.script s) = some content) ∧
        h.CanWrite p ∧ ∃ lines, screen.markup (writtenMessage p) = .ok lines) ∧
    (p.toText.ClosesOther "green" →
      ((Command.script text (some p) o).outcome screen h).stop.status ≠ 0) ∧
    (∀ s q, h.Asks text o s q →
      (∃ g, Graph.build? (some q) s.expandGroups = .ok g ∧ g.script? s.title = .ok (q.script s)) ∧
      (h.CanWrite p →
        ((Command.script text (some p) o).outcome screen h).console.host.files.get?
          (p.locate h.here) = some (.file ((Utf8.encode? (q.script s)).getD [])))) ∧
    ((¬ ∃ s q, h.Asks text o s q) →
      ((Command.script text (some p) o).outcome screen h).console.host = h) ∧
    ∀ l, (h.CanWrite p → l ≠ p.locate h.here) → h.files.KeptButFolders
      ((Command.script text (some p) o).outcome screen h).console.host.files l := by
  obtain ⟨hconsole, hstatus⟩ := outcome_eq (.script text (some p) o) screen h
  rw [perform] at hconsole hstatus
  rw [hconsole]
  obtain ⟨c, hc⟩ : ∃ c, Console.start screen h = c := ⟨_, rfl⟩
  obtain rfl : c.host = h := by rw [← hc]; rfl
  obtain rfl : c.screen = screen := by rw [← hc]; rfl
  rw [hc] at hstatus ⊢
  have hzero : ((Command.script text (some p) o).outcome c.screen c.host).stop.status = 0 ↔
      (∃ s q, c.host.Asks text o s q ∧ ∃ content, Utf8.encode? (q.script s) = some content) ∧
        c.host.CanWrite p ∧ ∃ lines, c.screen.markup (writtenMessage p) = .ok lines := by
    rw [hstatus, ← performScript_ok_iff hhere]
    exact or_iff_left fun ⟨stop, hstop, hzero⟩ => performScript_status_ne_zero hhere hstop hzero
  refine ⟨hzero, fun hcloses hsuccess => not_shows_writtenMessage hscreen hcloses
    (hzero.mp hsuccess).2.2, fun s q hasks => ?_, fun hnone => ?_, fun l hl =>
    performScript_files hhere hl⟩
  · refine ⟨Query.script?_of_parse hasks.query s, fun hcan => ?_⟩
    obtain ⟨files, hfiles, hfile, -⟩ := saveScript_of_canWrite hhere hcan (q.script s)
    rw [run_performScript hasks, hfiles]
    exact hfile
  · obtain ⟨stop, -, -, hhost⟩ := stopped_performScript hnone
    exact hhost

/-- A closing tag in the path, of which no tag is open: the command fails, although the settings load,
the text is a query and the file can be written, and the file holds the script. -/
theorem Command.outcome_script_unmatched :
    (Screen.ofWidth 200).RefusesUnmatched ∧ (Host.ofStatus 0).Asks "." {} {} .identity ∧
    (Host.ofStatus 0).CanWrite (Path.ofText "a[/b].d2") ∧
    ((Command.script "." (some (Path.ofText "a[/b].d2")) {}).outcome (Screen.ofWidth 200)
      (.ofStatus 0)).stop.status ≠ 0 ∧
    ((Command.script "." (some (Path.ofText "a[/b].d2")) {}).outcome (Screen.ofWidth 200)
      (.ofStatus 0)).console.host.files.get? ["a[", "b].d2"] =
        some (.file ((Utf8.encode? (Query.identity.script {})).getD [])) := by
  have hscreen := Screen.ofWidth_refusesUnmatched 200
  have hparse : Query.parse "." = .ok .identity :=
    Query.parse_eq_ok_iff_toOption.mpr (by decide +kernel)
  have hnone : (Host.ofStatus 0).files.settingsFile? (Host.ofStatus 0).here = none := by
    rw [FileTree.settingsFile?]
    rfl
  have hsettings : (Host.ofStatus 0).files.settings (Host.ofStatus 0).here = .ok {} := by
    rw [FileTree.settings, FileTree.settingsFileFrom?, Option.map_none, Option.getD_none, hnone]
  have hasks : (Host.ofStatus 0).Asks "." {} {} .identity := ⟨by rw [hsettings]; rfl, hparse⟩
  have hcan : (Host.ofStatus 0).CanWrite (Path.ofText "a[/b].d2") :=
    ⟨by decide, by decide, by decide⟩
  have hcloses : (Path.ofText "a[/b].d2").toText.ClosesOther "green" :=
    ⟨"a", "b", ".d2", by decide, by decide, by decide, by decide, by decide, by decide⟩
  obtain ⟨-, hstatus, hfile, -⟩ := outcome_script hscreen (h := .ofStatus 0) rfl "."
    (Path.ofText "a[/b].d2") {}
  exact ⟨hscreen, hasks, hcan, hstatus hcloses, (hfile {} .identity hasks).2 hcan⟩

end JqFlow
