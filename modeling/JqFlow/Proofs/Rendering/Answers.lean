import JqFlow.Diagram
import JqFlow.Proofs.Drawing.Labelled
import JqFlow.Proofs.Rendering.Runs
import JqFlow.Proofs.Script.Faithful
import JqFlow.Query.Equality

/-!
# Which requests are answered

A request for a diagram is to be answered in every case. A query that cannot be read is, and so is a
renderer that is missing, that fails, or that takes too long. What is left open is the way of the
script to the renderer and of the picture back: a script or an argument without bytes, a time limit
that no clock can measure, and bytes of the renderer that are missing or that are no text.

## Main definitions

- `Host.IsReady`: what has to be there before a request
- `Renderer.Answers`: does the run of a renderer come to an answer?

## Main statements

- `Host.picture_isOk_iff`: which scripts come to an answer
- `Host.diagram_answers`: which requests are answered, and with what
-/

namespace JqFlow

/-! ### Renderers -/

/-- A run of a renderer comes to an answer: it can be begun and waited for, and if it ends in time,
what it says is text, and so is the picture after a success. -/
structure Renderer.Answers (r : Renderer) (s : Settings) : Prop where
  layout : ∀ layout ∈ s.layout, layout.argumentFault? = none
  timeout : ∀ limit ∈ s.timeout, limit.unmeasurable? = none
  prints : ¬ r.TimesOut s.timeout → ∃ t, FileTree.textOf r.prints = .ok t
  picture : ¬ r.TimesOut s.timeout → r.status = 0 →
    ∃ content ∈ r.leaves, ∃ t, FileTree.textOf content = .ok t

/-! ### Rendering -/

/-- The picture in a folder. -/
def pictureIn (folder : Location) : Location := folder ++ [Text.ofString "diagram.svg"]

/-- The script beside the picture in a folder. -/
def scriptIn (folder : Location) : Location := folder ++ [Text.ofString "diagram.d2"]

theorem pictureIn_format? (folder : Location) :
    (Path.ofLocation (pictureIn folder)).format? = some .svg := by
  have hname : (Path.ofLocation (pictureIn folder)).name = Text.ofString "diagram.svg" := by
    rw [Path.name, Path.ofLocation, pictureIn, List.getLast?_concat, Option.getD_some]
  rw [Path.format?, Path.formatSuffix, Path.suffix, hname]
  decide

theorem pictureIn_scriptPath? (folder : Location) :
    (Path.ofLocation (pictureIn folder)).scriptPath? = some (Path.ofLocation (scriptIn folder)) := by
  have hstem : (Path.cut (Text.ofString "diagram.svg")).1 ++ OutputFormat.script.suffix =
      Text.ofString "diagram.d2" := by decide
  rw [pictureIn, Path.scriptPath?_concat folder (by decide), hstem, scriptIn]

/-- Is an error of rendering part of an answer? -/
def RenderError.isReported : RenderError → Bool
  | unsupported .. | notFound .. | failed .. => true
  | _ => false

namespace Host

/-- Rendering has come to an answer: a picture that can be read, or an error that is reported. -/
def Answered (output : Location) (x : Except RenderError Rendered × Host) : Prop :=
  match x.1 with
  | .ok _ => ∃ t, x.2.files.readText output = .ok t
  | .error e => e.isReported = true

variable {h : Host} {script : Text} {content : Bytes} {folder : Location}

/-- The picture can be read if the renderer has left one that is text. -/
theorem readText_leave (hnone : h.files.get? (pictureIn folder) = none) (left : Option Bytes) :
    (∃ t, (h.leave (pictureIn folder) left).files.readText (pictureIn folder) = .ok t) ↔
      ∃ content ∈ left, ∃ t, FileTree.textOf content = .ok t := by
  cases left with
  | none => simp [leave, FileTree.readText, hnone]
  | some content =>
    have hself : (h.leave (pictureIn folder) (some content)).files.get? (pictureIn folder) =
        some (.file content) := by
      simp only [leave, hnone, reduceCtorEq, if_false]
      exact FileTree.get?_put_self (List.concat_ne_nil _ _)
    rw [FileTree.readText_eq hself]
    simp

/-- The end of a run comes to an answer: a picture that can be read, or a failure of the renderer. -/
def EndsAnswered (output : Location) : RunResult × Host → Prop
  | (.finished status _, h) => status = 0 → ∃ t, h.files.readText output = .ok t
  | (.timedOut, _) => True
  | (.refused _, _) | (.unreadable _, _) | (.unmeasurable _, _) => False

theorem answered_of_run (hscript : Utf8.encode? script = some content) {source : Location}
    {r : Renderer} {o : RenderOptions} {result : RunResult} {h' : Host}
    (hrun : h.run r o.layout source (pictureIn folder) o.timeout = (result, h'))
    (hfree : h'.files.get? (scriptIn folder) ≠ some .folder) :
    Answered (pictureIn folder) (h.renderFile script source (pictureIn folder) r o) ↔
      EndsAnswered (pictureIn folder) (result, h') := by
  simp only [renderFile, hrun]
  cases result with
  | finished status prints =>
    by_cases hstatus : status = 0 <;>
      simp [Answered, EndsAnswered, hstatus,
        keepAndFail_of_path (pictureIn_scriptPath? folder) hscript hfree, RenderError.isReported]
  | timedOut =>
    simp [Answered, EndsAnswered, keepAndFail_of_path (pictureIn_scriptPath? folder) hscript hfree,
      RenderError.isReported]
  | _ => simp [Answered, EndsAnswered, RenderError.isReported]

/-- A run of a renderer in an empty folder comes to an answer exactly if the renderer lets it. -/
theorem renderFile_answered (hscript : Utf8.encode? script = some content)
    (hnone : ∀ part, h.files.get? (folder ++ [part]) = none) {source : Location}
    (hsource : (Path.ofLocation source).toText.CanPass)
    (houtput : (Path.ofLocation (pictureIn folder)).toText.CanPass) (r : Renderer) (s : Settings) :
    Answered (pictureIn folder)
        (h.renderFile script source (pictureIn folder) r s.renderOptions) ↔ r.Answers s := by
  have hargs := findSome?_renderArgs s.layout hsource houtput
  cases hfault : s.layout.bind Text.argumentFault? with
  | some e =>
    have hrun := run_refused (h := h) r (hargs.trans hfault) s.timeout
    rw [answered_of_run hscript hrun (by rw [scriptIn, hnone]; simp)]
    refine iff_of_false id fun hr => ?_
    rw [Option.bind_eq_none_iff.mpr hr.layout] at hfault
    exact absurd hfault (by simp)
  | none =>
    obtain ⟨h', hrun, hfiles⟩ := exists_run (h := h) r (hargs.trans hfault) s.timeout
    have hlayout : ∀ layout ∈ s.layout, layout.argumentFault? = none :=
      Option.bind_eq_none_iff.mp hfault
    have hfree : h'.files.get? (scriptIn folder) ≠ some .folder := by
      rw [hfiles, get?_leave_of_ne (by simp [scriptIn, pictureIn]; decide), scriptIn, hnone]
      simp
    have hpicture : (∃ t, h'.files.readText (pictureIn folder) = .ok t) ↔
        ∃ content ∈ r.leaves, ∃ t, FileTree.textOf content = .ok t := by
      rw [hfiles]
      exact readText_leave (hnone _) r.leaves
    rw [answered_of_run hscript hrun hfree]
    -- Too late, in time with a text, in time without one, or no time that can be measured.
    by_cases htimeout : ∀ limit ∈ s.timeout, limit.unmeasurable? = none
    · rcases outcome_eq htimeout with ⟨hout, heq⟩ | ⟨hout, ⟨t, ht, heq⟩ | ⟨e, he, heq⟩⟩
      · rw [heq]
        exact iff_of_true trivial ⟨hlayout, htimeout, fun h => absurd hout h, fun h => absurd hout h⟩
      · rw [heq]
        exact ⟨fun h => ⟨hlayout, htimeout, fun _ => ⟨t, ht⟩, fun _ hs => hpicture.mp (h hs)⟩,
          fun hr hs => hpicture.mpr (hr.picture hout hs)⟩
      · rw [heq]
        refine iff_of_false id fun hr => ?_
        obtain ⟨t, ht⟩ := hr.prints hout
        rw [he] at ht
        exact absurd ht (by simp)
    · obtain ⟨e, heq⟩ := outcome_unmeasurable r htimeout
      rw [heq]
      exact iff_of_false id fun hr => htimeout hr.timeout

/-! ### Requests -/

/-- The folder for transient files is there, names that lead to it can be arguments, and there are
folders around every file. -/
structure IsReady (h : Host) : Prop where
  closed : h.files.IsClosed
  folder : h.files.get? h.transient = some .folder
  plain : h.transient.IsPlain
  passable : ∀ part ∈ h.transient, part.CanPass

/-- A request for the picture of a script comes to an answer: the script has bytes, and if there is a
renderer it lets its run come to one. -/
def Answers (h : Host) (s : Settings) (script : Text) : Prop :=
  (∃ content, Utf8.encode? script = some content) ∧
    ∀ r, h.renderer? s.renderer = some r → r.Answers s

/-- The folder of its own in which a picture is rendered. -/
def ownFolder (h : Host) : Location := h.transient ++ [h.files.fresh []]

/-- The host with that folder, and nothing in it. -/
def withOwnFolder (h : Host) : Host := h.withFiles (h.files.put h.ownFolder .folder)

namespace IsReady

theorem ownFolder_plain (hr : h.IsReady) : h.ownFolder.IsPlain := by
  intro hup
  rcases List.mem_append.mp hup with hup | hup
  · exact hr.plain hup
  · exact FileTree.fresh_ne_up h.files [] (List.mem_singleton.mp hup).symm

theorem closed_withOwnFolder (hr : h.IsReady) : h.withOwnFolder.files.IsClosed :=
  hr.closed.put_folder (by rw [ownFolder, List.dropLast_concat, hr.folder])

theorem get?_ownFolder (h : Host) : h.withOwnFolder.files.get? h.ownFolder = some .folder :=
  FileTree.get?_put_self (List.concat_ne_nil _ _)

/-- Nothing is in the folder yet. -/
theorem get?_inside (hr : h.IsReady) (part : Text) :
    h.withOwnFolder.files.get? (h.ownFolder ++ [part]) = none := by
  have hne : h.ownFolder ++ [part] ≠ h.ownFolder := by simp
  have hfresh : h.files.get? h.ownFolder ≠ some .folder := by
    rw [ownFolder, FileTree.get?_fresh]
    simp
  exact (FileTree.get?_put_of_ne hne).trans (hr.closed.get?_inside hfresh part)

theorem canPass_part (hr : h.IsReady) : ∀ part ∈ pictureIn h.ownFolder, part.CanPass := by
  intro part hpart
  rw [pictureIn, ownFolder] at hpart
  rcases List.mem_append.mp hpart with hpart | hpart
  · rcases List.mem_append.mp hpart with hpart | hpart
    · exact hr.passable part hpart
    · rw [List.mem_singleton.mp hpart]
      exact FileTree.canPass_fresh h.files (by decide)
  · rw [List.mem_singleton.mp hpart]
    decide

theorem canPass_picture (hr : h.IsReady) :
    (Path.ofLocation (pictureIn h.ownFolder)).toText.CanPass :=
  Path.canPass_toText_iff.mpr hr.canPass_part

/-- The folders around the picture are there, so rendering begins with the script. -/
theorem render_eq (hr : h.IsReady) (script : Text) (o : RenderOptions) :
    h.withOwnFolder.render script (Path.ofLocation (pictureIn h.ownFolder)) o =
      h.withOwnFolder.renderTo script (pictureIn h.ownFolder) .svg o := by
  have hlocate (here : Location) :
      (Path.ofLocation (pictureIn h.ownFolder)).locate here = pictureIn h.ownFolder := by
    refine Path.locate_ofLocation (fun hup => ?_) here
    rcases List.mem_append.mp hup with hup | hup
    · exact hr.ownFolder_plain hup
    · exact absurd (List.mem_singleton.mp hup) (by decide)
  have hmake := hr.closed_withOwnFolder.makeFolders hr.ownFolder_plain (get?_ownFolder h) []
  have hfolder : (pictureIn h.ownFolder).dropLast = h.ownFolder := by
    rw [pictureIn, List.dropLast_concat]
  rw [← hfolder, ← hlocate h.withOwnFolder.here] at hmake
  rw [render_of_makeFolders (pictureIn_format? _) hr.canPass_part hmake, hlocate]
  rfl

/-- With a renderer, the script is handed over in a transient file beside the folder. The answer does
not depend on that file, neither while it is there nor after it is removed. -/
theorem renderTransient_answered (hr : h.IsReady) (script : Text) (r : Renderer) (s : Settings) :
    Answered (pictureIn h.ownFolder)
        (h.withOwnFolder.renderTransient script (pictureIn h.ownFolder) r s.renderOptions) ↔
      (∃ content, Utf8.encode? script = some content) ∧ r.Answers s := by
  obtain ⟨source, hsource⟩ : ∃ source,
      h.withOwnFolder.transientScript (pictureIn h.ownFolder) = source := ⟨_, rfl⟩
  have hfree : h.withOwnFolder.files.get? source ≠ some .folder := by
    rw [← hsource, get?_transientScript]
    simp
  have hpass : (Path.ofLocation source).toText.CanPass := by
    rw [← hsource]
    exact canPass_transientScript (h := h.withOwnFolder) hr.passable _
  have hapart (part : Text) : h.ownFolder ++ [part] ≠ source := by
    intro heq
    -- The transient script is in the folder around the own one.
    have hlength := congrArg List.length (heq.trans hsource.symm)
    simp [transientScript, ownFolder, withOwnFolder, withFiles] at hlength
  simp only [renderTransient, hsource]
  cases hscript : Utf8.encode? script with
  | none =>
    refine iff_of_false ?_ (by simp)
    rw [FileTree.writeTextAt_unencodable hfree hscript]
    simp [Answered, RenderError.isReported]
  | some content =>
    rw [and_iff_right ⟨content, rfl⟩, FileTree.writeTextAt_eq hfree hscript]
    have hnone (part : Text) : (h.withOwnFolder.withFiles
        (h.withOwnFolder.files.put source (.file content))).files.get? (h.ownFolder ++ [part]) =
          none :=
      (FileTree.get?_put_of_ne (hapart part)).trans (hr.get?_inside part)
    rw [← renderFile_answered hscript hnone hpass hr.canPass_picture r s]
    -- The transient script is removed before the picture is read.
    have hread (t : FileTree) : (t.erase source).readText (pictureIn h.ownFolder) =
        t.readText (pictureIn h.ownFolder) := by
      have hget := FileTree.get?_erase_of_ne (t := t) (hapart (Text.ofString "diagram.svg"))
      rw [FileTree.readText, FileTree.readText, pictureIn, hget]
    simp only [Answered, withFiles, hread]

/-- Rendering in the own folder comes to an answer exactly if the request does. -/
theorem renderTo_answered (hr : h.IsReady) (script : Text) (s : Settings) :
    Answered (pictureIn h.ownFolder)
        (h.withOwnFolder.renderTo script (pictureIn h.ownFolder) .svg s.renderOptions) ↔
      h.Answers s script := by
  have hrenderer : h.withOwnFolder.renderer? s.renderOptions.renderer =
    h.renderer? s.renderer := rfl
  simp only [renderTo, hrenderer, Answers]
  cases h.renderer? s.renderer with
  | some r => simpa using hr.renderTransient_answered script r s
  | none =>
    have hfree : h.withOwnFolder.files.get? (scriptIn h.ownFolder) ≠ some .folder := by
      rw [scriptIn, hr.get?_inside]
      simp
    have hpath := pictureIn_scriptPath? h.ownFolder
    cases hscript : Utf8.encode? script with
    | none => simp [Answered, keepAndFail_unencodable hpath hscript hfree, RenderError.isReported]
    | some content => simp [Answered, keepAndFail_of_path hpath hscript hfree, RenderError.isReported]

end IsReady

/-- The scripts that come to an answer. -/
theorem picture_isOk_iff (hr : h.IsReady) (script : Text) (s : Settings) :
    (∃ answer, (h.picture script s).1 = .ok answer) ↔ h.Answers s script := by
  rw [← hr.renderTo_answered, ← hr.render_eq]
  obtain ⟨⟨result, after⟩, hx⟩ : ∃ x, h.withOwnFolder.render script
    (Path.ofLocation (pictureIn h.ownFolder)) s.renderOptions = x := ⟨_, rfl⟩
  rw [hx]
  simp only [withOwnFolder, ownFolder, pictureIn] at hx
  simp only [picture, hx, Answered]
  cases result with
  | ok rendered =>
    simp only [pictureIn, ownFolder]
    cases after.files.readText
      (h.transient ++ [h.files.fresh []] ++ [Text.ofString "diagram.svg"]) <;> simp
  | error e => cases e <;> simp [RenderError.keepsScript, RenderError.isReported]

end Host

/-! ### Answers -/

theorem Text.firstLine_append_ne_nil {s : Text} (hs : s.firstLine ≠ []) (t : Text) :
    Text.firstLine (s ++ t) ≠ [] := by
  cases s with
  | nil => exact absurd rfl hs
  | cons c s =>
    simp only [Text.firstLine, List.cons_append, List.takeWhile_cons] at hs ⊢
    split at hs
    · next hc => rw [if_pos hc]; simp
    · exact absurd rfl hs

namespace RenderError

theorem message_firstLine_ne_nil {e : RenderError} (h : e.keepsScript = true) :
    e.message.firstLine ≠ [] := by
  have hstart : Text.firstLine "renderer '" ≠ [] := by decide
  cases e with
  | notFound renderer script output =>
    simp only [message, List.append_assoc]
    exact Text.firstLine_append_ne_nil hstart _
  | failed renderer status output script =>
    simp only [message, List.append_assoc]
    exact Text.firstLine_append_ne_nil hstart _
  | _ => exact absurd h Bool.false_ne_true

end RenderError

/-- An answer for a script is a picture without a reason, the script with one, or a reason alone. -/
def Diagram.IsFor (script : Text) : Diagram → Prop
  | .picture _ => True
  | .script s reason => s = script ∧ reason ≠ []
  | .refused reason => reason ≠ []

theorem Host.picture_isFor {h : Host} {script : Text} {s : Settings} {answer : Diagram}
    (hanswer : (h.picture script s).1 = .ok answer) : answer.IsFor script := by
  rw [picture] at hanswer
  dsimp only at hanswer
  split at hanswer
  · split at hanswer
    · obtain rfl := Except.ok.inj hanswer
      trivial
    · exact absurd hanswer (by simp)
  · next e he =>
    split at hanswer
    · next hkeeps =>
      obtain rfl := Except.ok.inj hanswer
      exact ⟨rfl, e.message_firstLine_ne_nil hkeeps⟩
    · split at hanswer
      · obtain rfl := Except.ok.inj hanswer
        simp [Diagram.IsFor, RenderError.message, Text.ofString]
      · exact absurd hanswer (by simp)

/-- What an answer for a script tells by its kind. -/
theorem Diagram.IsFor.kinds {script : Text} {answer : Diagram} (h : answer.IsFor script) :
    (answer.kind = "svg" → answer.reason = []) ∧
      (answer.kind = "d2" → answer.content = script ∧ answer.reason ≠ []) ∧
      (answer.kind = [] → answer.content = [] ∧ answer.reason ≠ []) := by
  have hsvg : Text.ofString "svg" ≠ [] := by decide
  have hd2 : Text.ofString "d2" ≠ [] := by decide
  have hne : Text.ofString "svg" ≠ Text.ofString "d2" := by decide
  cases answer with
  | picture svg =>
    exact ⟨fun _ => rfl, fun hkind => absurd hkind hne, fun hkind => absurd hkind hsvg⟩
  | script s reason =>
    exact ⟨fun hkind => absurd hkind.symm hne, fun _ => h, fun hkind => absurd hkind hd2⟩
  | refused reason =>
    exact ⟨fun hkind => absurd hkind.symm hsvg, fun hkind => absurd hkind.symm hd2,
      fun _ => ⟨rfl, h⟩⟩

theorem Diagram.blankReason_ne_nil : blankReason ≠ [] := by decide

theorem Diagram.refusal_ne_nil (e : ParseError) : refusal e ≠ [] := by
  simp [refusal, Text.ofString]

/-- A text that is no query is refused, blank or not. -/
theorem Host.diagram_of_error {text : Text} {e : ParseError} (h : Query.parse text = .error e)
    (host : Host) (s : Settings) :
    ∃ reason ≠ [], (host.diagram text s).1 = .ok (.refused reason) := by
  rw [diagram]
  split
  · exact ⟨_, Diagram.blankReason_ne_nil, rfl⟩
  · rw [h]
    exact ⟨_, Diagram.refusal_ne_nil e, rfl⟩

theorem Host.diagram_of_parse {text : Text} {q : Query} (h : Query.parse text = .ok q)
    (host : Host) (s : Settings) : host.diagram text s = host.picture (q.script s) s := by
  have hblank : text.isBlank ≠ true := fun hblank => by
    rw [Query.parse, if_pos hblank] at h
    exact absurd h (by simp)
  rw [diagram, if_neg hblank, h]

/-- A query that was read has a script. -/
theorem Query.script?_of_parse {text : Text} {q : Query} (h : parse text = .ok q) (s : Settings) :
    ∃ g, Graph.build? (some q) s.expandGroups = .ok g ∧ g.script? s.title = .ok (q.script s) :=
  ⟨_, Graph.build?_of_parse h s.expandGroups,
    (Graph.build_legible q s.expandGroups).script?_eq s.title _⟩

/-- Every query that is read has a graph and a script, and a request for its diagram is answered
exactly if that script comes to an answer; a text that is no query is always answered. An answer with
a picture has no reason, one with a script has the script of the query and a reason, and one of no
kind has a reason and nothing else. -/
theorem Host.diagram_answers {h : Host} (hr : h.IsReady) (text : Text) (s : Settings) :
    (∀ q, Query.parse text = .ok q →
      ∃ g, Graph.build? (some q) s.expandGroups = .ok g ∧ g.script? s.title = .ok (q.script s)) ∧
    ((∃ answer, (h.diagram text s).1 = .ok answer) ↔
      ∀ q, Query.parse text = .ok q → h.Answers s (q.script s)) ∧
    ∀ answer, (h.diagram text s).1 = .ok answer →
      (answer.kind = "svg" → answer.reason = []) ∧
      (answer.kind = "d2" →
        (∃ q, Query.parse text = .ok q ∧ answer.content = q.script s) ∧ answer.reason ≠ []) ∧
      (answer.kind = [] → answer.content = [] ∧ answer.reason ≠ []) := by
  refine ⟨fun q hq => Query.script?_of_parse hq s, ?_⟩
  cases hparse : Query.parse text with
  | error e =>
    obtain ⟨reason, hreason, heq⟩ := diagram_of_error hparse h s
    rw [heq]
    refine ⟨iff_of_true ⟨_, rfl⟩ (by simp), fun answer hanswer => ?_⟩
    obtain rfl := Except.ok.inj hanswer
    have hfor : Diagram.IsFor [] (.refused reason) := hreason
    have hd2 : Text.ofString "d2" ≠ [] := by decide
    exact ⟨hfor.kinds.1, fun hkind => absurd hkind.symm hd2, hfor.kinds.2.2⟩
  | ok q =>
    rw [diagram_of_parse hparse h s]
    refine ⟨?_, fun answer hanswer => ?_⟩
    · rw [picture_isOk_iff hr]
      exact ⟨fun hq q' hq' => Except.ok.inj hq' ▸ hq, fun hq => hq q rfl⟩
    · have hkinds := (picture_isFor hanswer).kinds
      exact ⟨hkinds.1, fun hkind => ⟨⟨q, rfl, (hkinds.2.1 hkind).1⟩, (hkinds.2.1 hkind).2⟩,
        hkinds.2.2⟩

/-- With a renderer that leaves a picture in time the diagram of `.` is answered. -/
theorem Host.diagram_answers_picture :
    (⟨(FileTree.mk []).put [Text.ofString "tmp"] .folder, [], [Text.ofString "tmp"],
      [(Text.ofString "d2", ⟨"/bin/d2", .zero, some [0x3C], [], 0⟩)], []⟩ : Host).IsReady ∧
    ∃ answer, (Host.diagram ⟨(FileTree.mk []).put [Text.ofString "tmp"] .folder, [],
      [Text.ofString "tmp"], [(Text.ofString "d2", ⟨"/bin/d2", .zero, some [0x3C], [], 0⟩)], []⟩
      "." {}).1 = .ok answer := by
  have hready : (⟨(FileTree.mk []).put [Text.ofString "tmp"] .folder, [], [Text.ofString "tmp"],
      [(Text.ofString "d2", ⟨"/bin/d2", .zero, some [0x3C], [], 0⟩)], []⟩ : Host).IsReady :=
    ⟨FileTree.isClosed_empty.put_folder rfl, by decide, by decide, by decide⟩
  have hparse : Query.parse "." = .ok .identity :=
    Query.parse_eq_ok_iff_toOption.mpr (by decide +kernel)
  refine ⟨hready, (Host.diagram_answers hready "." {}).2.1.mpr fun q hq => ?_⟩
  obtain rfl := Except.ok.inj (hparse.symm.trans hq)
  refine ⟨Option.isSome_iff_exists.mp (by decide +kernel), fun r hr => ?_⟩
  have hr : some (⟨"/bin/d2", .zero, some [0x3C], [], 0⟩ : Renderer) = some r := hr
  obtain rfl := Option.some.inj hr
  refine ⟨?_, fun _ hlimit => absurd hlimit (Option.not_mem_none _), fun _ => ⟨[], rfl⟩, fun _ _ => ?_⟩
  · intro layout hlayout
    obtain rfl := Option.some.inj hlayout
    decide
  · exact ⟨_, rfl, _, rfl⟩

end JqFlow
