import JqFlow.Proofs.Rendering.Outcomes

/-!
# What is left of transient scripts

A renderer reads the script from a transient file, which is removed after the run, however the run
ends: in time or not, with any status, with anything printed, or with an error of the run itself. The
file is there before the script is written to it, though, and it is only removed after a run. So the
file of a script without bytes stays, and nothing else does.

## Main definitions

- `Host.IsLeft`: what is new after rendering, but for the output and the script beside it
- `Host.HandsOver`: is a script handed to a renderer?

## Main statements

- `Host.renderFile_get?`: what a run on a file leaves as it was
- `Host.render_leaves`: when something is left, and what
-/

namespace JqFlow

namespace Host

variable {h : Host} {script : Text} {out kept l : Location} {output : Path} {o : RenderOptions}

/-- Keeping a script leaves everything else as it was. -/
theorem keepAndFail_get? (hpath : (Path.ofLocation out).scriptPath? = some (Path.ofLocation kept))
    (hl : l ≠ kept) (h : Host) (script : Text) (error : Path → RenderError) :
    (h.keepAndFail script out error).2.files.get? l = h.files.get? l := by
  have hwrite := h.files.get?_writeTextAt_of_ne hl script
  rw [keepAndFail, keepScript]
  simp only [hpath]
  obtain ⟨⟨e, files⟩, hx⟩ : ∃ x, h.files.writeTextAt kept script = x := ⟨_, rfl⟩
  rw [hx] at hwrite
  simp only [Path.ofLocation, hx]
  cases e <;> exact hwrite

/-- A run leaves everything but the output as it was. -/
theorem run_get? (hl : l ≠ out) (h : Host) (r : Renderer) (layout : Option Text)
    (source : Location) (limit : Option Seconds) :
    (h.run r layout source out limit).2.files.get? l = h.files.get? l := by
  cases hargs : (renderArgs layout (Path.ofLocation source) (Path.ofLocation out)).findSome?
    Text.argumentFault? with
  | some e => rw [run_refused r hargs]
  | none =>
    obtain ⟨h', hrun, hfiles⟩ := exists_run (h := h) r hargs limit
    rw [hrun, hfiles, get?_leave_of_ne hl]

/-- A run on a file leaves everything but the output and the script beside it as it was, however it
ends. -/
theorem renderFile_get?
    (hpath : (Path.ofLocation out).scriptPath? = some (Path.ofLocation kept)) (hout : l ≠ out)
    (hkept : l ≠ kept) (h : Host) (script : Text) (source : Location) (r : Renderer)
    (o : RenderOptions) :
    (h.renderFile script source out r o).2.files.get? l = h.files.get? l := by
  have hrun := run_get? hout h r o.layout source o.timeout
  obtain ⟨⟨result, h'⟩, hx⟩ : ∃ x, h.run r o.layout source out o.timeout = x := ⟨_, rfl⟩
  rw [hx] at hrun
  simp only [renderFile, hx]
  cases result with
  | refused | unreadable | unmeasurable => exact hrun
  | timedOut => exact (keepAndFail_get? hpath hkept h' script _).trans hrun
  | finished status prints =>
    by_cases hstatus : status = 0
    · simpa [hstatus] using hrun
    · simpa [hstatus] using (keepAndFail_get? hpath hkept h' script _).trans hrun

/-! ### Transient scripts -/

/-- The transient file of a script that has bytes is gone after the run, and that of a script without
bytes is there, with nothing in it. -/
theorem renderTransient_get? {format : OutputFormat} {here : Location}
    (hformat : output.format? = some format) (hout : l ≠ output.locate here)
    (hkept : l ≠ output.scriptLocation here) (h : Host) (script : Text) (r : Renderer)
    (o : RenderOptions) :
    (h.renderTransient script (output.locate here) r o).2.files.get? l =
      if l = h.transientScript (output.locate here) ∧ Utf8.encode? script = none then
        some (.file [])
      else h.files.get? l := by
  have hnone := get?_transientScript h (output.locate here)
  have hnil : h.transientScript (output.locate here) ≠ [] := List.concat_ne_nil _ _
  simp only [renderTransient]
  generalize h.transientScript (output.locate here) = source at *
  have hfree : h.files.get? source ≠ some .folder := by rw [hnone]; simp
  cases hscript : Utf8.encode? script with
  | none =>
    rw [FileTree.writeTextAt_unencodable hfree hscript]
    simp only [withFiles, and_true]
    split
    · next heq => rw [heq, FileTree.get?_put_self hnil]
    · next hne => exact FileTree.get?_put_of_ne hne
  | some content =>
    rw [FileTree.writeTextAt_eq hfree hscript]
    simp only [reduceCtorEq, and_false, if_false]
    refine FileTree.get?_erase_of_agrees hnone fun hne => ?_
    exact (renderFile_get? (Path.scriptPath?_locate hformat here) hout hkept _ script source r o).trans
      (FileTree.get?_put_of_ne hne)

/-- Rendering an image leaves everything but the output and the script beside it as it was, but for
the transient file of a script without bytes, if there is a renderer. -/
theorem renderTo_get? {format : OutputFormat} {here : Location}
    (hformat : output.format? = some format) (himage : format ≠ .script)
    (hout : l ≠ output.locate here) (hkept : l ≠ output.scriptLocation here) (h : Host)
    (script : Text) (o : RenderOptions) :
    (h.renderTo script (output.locate here) format o).2.files.get? l =
      if l = h.transientScript (output.locate here) ∧ Utf8.encode? script = none ∧
        (h.renderer? o.renderer).isSome then some (.file [])
      else h.files.get? l := by
  rw [renderTo_image h script _ himage]
  simp only [renderTo]
  cases h.renderer? o.renderer with
  | none =>
    simpa using keepAndFail_get? (Path.scriptPath?_locate hformat here) hkept h script _
  | some r => simpa using renderTransient_get? hformat hout hkept h script r o

/-! ### What is left -/

/-- The host with the folders around an output, as far as they can be made. -/
def withFolders (h : Host) (output : Path) : Host :=
  h.withFiles (h.files.makeFolders [] (Path.ofLocation (output.locate h.here).dropLast)).2

/-- A file is left after rendering to an output: nothing was there before, and it is neither the
output nor the script beside it. -/
def IsLeft (before after : Host) (output : Path) (l : Location) : Prop :=
  before.files.get? l = none ∧ (∃ content, after.files.get? l = some (.file content)) ∧
    l ≠ output.locate before.here ∧ l ≠ output.scriptLocation before.here

/-- A script is handed to a renderer: an image is asked for, at a place that the system can be asked
for and where folders can be made, and there is a renderer. -/
structure HandsOver (h : Host) (output : Path) (o : RenderOptions) : Prop where
  image : output.IsImage
  passable : ∀ part ∈ output.parts, part.CanPass
  folder : (h.files.makeFolders [] (Path.ofLocation (output.locate h.here).dropLast)).1 = none
  renderer : (h.renderer? o.renderer).isSome

/-- Without a change nothing is left. -/
theorem not_isLeft_self (h : Host) (output : Path) (l : Location) : ¬ h.IsLeft h output l := by
  rintro ⟨hnone, ⟨content, hfile⟩, -, -⟩
  rw [hnone] at hfile
  exact absurd hfile (by simp)

/-- Before a script is handed over, nothing but folders is new. -/
theorem not_isLeft_withFolders (h : Host) (output : Path) (l : Location) :
    ¬ h.IsLeft (h.withFolders output) output l := by
  rintro ⟨hnone, ⟨content, hfile⟩, -, -⟩
  rcases h.files.get?_makeFoldersFrom [] false (output.locate h.here).dropLast l with
    hsame | ⟨-, hfolder⟩
  · have hfile := hsame.symm.trans hfile
    rw [hnone] at hfile
    exact absurd hfile (by simp)
  · have hfile := hfolder.symm.trans hfile
    exact absurd hfile (by simp)

/-- What is left depends only on what is at places other than the output and the script beside it. -/
theorem IsLeft.of_get? {before after after' : Host} (hleft : before.IsLeft after output l)
    (h : l ≠ output.locate before.here → l ≠ output.scriptLocation before.here →
      after.files.get? l = after'.files.get? l) : before.IsLeft after' output l := by
  obtain ⟨hnone, ⟨content, hfile⟩, hout, hkept⟩ := hleft
  exact ⟨hnone, ⟨content, (h hout hkept).symm.trans hfile⟩, hout, hkept⟩

/-- What leaves something was handed over. -/
theorem HandsOver.of_isLeft (hleft : h.IsLeft (h.render script output o).2 output l) :
    h.HandsOver output o := by
  have hnew := h.not_isLeft_withFolders output l
  cases hformat : output.format? with
  | none =>
    rw [render, hformat] at hleft
    exact absurd hleft (not_isLeft_self h output l)
  | some format =>
    by_cases hparts : ∀ part ∈ output.parts, part.CanPass
    · obtain ⟨⟨e, files⟩, hmake⟩ : ∃ x, h.files.makeFolders []
        (Path.ofLocation (output.locate h.here).dropLast) = x := ⟨_, rfl⟩
      rw [withFolders, hmake] at hnew
      cases e with
      | some e =>
        have hfault : output.parts.findSome? Text.argumentFault? = none :=
          List.findSome?_eq_none_iff.mpr fun part hpart =>
            Text.argumentFault?_eq_none_iff.mpr (hparts part hpart)
        simp only [render, hformat, hfault, hmake] at hleft
        exact absurd hleft hnew
      | none =>
        rw [render_of_makeFolders hformat hparts hmake] at hleft
        by_cases himage : format = .script
        · -- The script is the output.
          subst himage
          refine absurd (hleft.of_get? fun hout _ => ?_) hnew
          have hwrite := files.get?_writeTextAt_of_ne hout script
          obtain ⟨⟨e, files'⟩, hx⟩ : ∃ x, files.writeTextAt (output.locate h.here) script = x :=
            ⟨_, rfl⟩
          rw [hx] at hwrite
          simp only [renderTo, withFiles, hx]
          cases e <;> exact hwrite
        · refine ⟨⟨format, hformat, himage⟩, hparts, by rw [hmake], ?_⟩
          by_contra hnone
          refine hnew (hleft.of_get? fun hout hkept => ?_)
          have hmissing : ¬ ((h.withFiles files).renderer? o.renderer).isSome = true := hnone
          rw [renderTo_get? hformat himage hout hkept, if_neg fun hall => hmissing hall.2.2]
    · obtain ⟨e, hfault⟩ : ∃ e, output.parts.findSome? Text.argumentFault? = some e :=
        Option.ne_none_iff_exists'.mp fun hnone => hparts fun part hpart =>
          Text.argumentFault?_eq_none_iff.mp (List.findSome?_eq_none_iff.mp hnone part hpart)
      simp only [render, hformat, hfault] at hleft
      exact absurd hleft (not_isLeft_self h output l)

namespace HandsOver

/-- With the folders made, the script goes to a renderer in a transient file. -/
theorem render_eq (hover : h.HandsOver output o) (script : Text) :
    ∃ format r, output.format? = some format ∧ format ≠ .script ∧
      h.renderer? o.renderer = some r ∧
      h.render script output o =
        (h.withFolders output).renderTransient script (output.locate h.here) r o := by
  obtain ⟨format, hformat, himage⟩ := hover.image
  obtain ⟨r, hr⟩ := Option.isSome_iff_exists.mp hover.renderer
  have hrenderer : (h.withFolders output).renderer? o.renderer = some r := hr
  refine ⟨format, r, hformat, himage, hr, ?_⟩
  rw [render_of_makeFolders hformat hover.passable (Prod.ext hover.folder rfl),
    renderTo_image _ _ _ himage, ← withFolders]
  simp only [renderTo, hrenderer]

/-- What is anywhere but at the output and at the script beside it. -/
theorem render_get? (hover : h.HandsOver output o) (script : Text) (hout : l ≠ output.locate h.here)
    (hkept : l ≠ output.scriptLocation h.here) :
    (h.render script output o).2.files.get? l =
      if l = (h.withFolders output).transientScript (output.locate h.here) ∧
        Utf8.encode? script = none then some (.file [])
      else (h.withFolders output).files.get? l := by
  obtain ⟨format, r, hformat, -, -, heq⟩ := hover.render_eq script
  rw [heq, renderTransient_get? hformat hout hkept]

/-- A script that is handed over leaves its transient file if it has no bytes. -/
theorem isLeft (hover : h.HandsOver output o) (hscript : Utf8.encode? script = none) :
    h.IsLeft (h.render script output o).2 output
      ((h.withFolders output).transientScript (output.locate h.here)) := by
  obtain ⟨format, hformat, -⟩ := hover.image
  have hout := (locate_ne_transientScript hformat (h.withFolders output) h.here).symm
  have hkept := (scriptLocation_ne_transientScript hformat (h.withFolders output) h.here).symm
  have hnone := get?_transientScript (h.withFolders output) (output.locate h.here)
  refine ⟨?_, ⟨[], by rw [hover.render_get? script hout hkept, if_pos ⟨rfl, hscript⟩]⟩, hout, hkept⟩
  exact (h.files.get?_makeFoldersFrom [] false (output.locate h.here).dropLast _).elim
    (fun hsame => hsame.symm.trans hnone) fun hnew => hnew.1

/-- A script that is handed over leaves nothing but its transient file, and this only if it has no
bytes. -/
theorem eq_of_isLeft (hover : h.HandsOver output o)
    (hleft : h.IsLeft (h.render script output o).2 output l) :
    l = (h.withFolders output).transientScript (output.locate h.here) ∧
      Utf8.encode? script = none := by
  by_contra hother
  refine h.not_isLeft_withFolders output l (hleft.of_get? fun hout hkept => ?_)
  rw [hover.render_get? script hout hkept, if_neg hother]

/-- Rendering a script without bytes ends before the renderer is run. -/
theorem render_unencodable (hover : h.HandsOver output o) (hscript : Utf8.encode? script = none) :
    (h.render script output o).1 = .error (.file .unencodable) := by
  obtain ⟨format, r, -, -, -, heq⟩ := hover.render_eq script
  have hfree : (h.withFolders output).files.get?
      ((h.withFolders output).transientScript (output.locate h.here)) ≠ some .folder := by
    rw [get?_transientScript]
    simp
  rw [heq, renderTransient, FileTree.writeTextAt_unencodable hfree hscript]

end HandsOver

/-- A transient script is left after rendering exactly if it has no bytes and is handed to a renderer.
What is left is then an empty file in the folder for transient files, and the rendering ends with the
error that the script could not be written. In all other cases, with any renderer and however its run
ends, nothing is left. -/
theorem render_leaves (h : Host) (script : Text) (output : Path) (o : RenderOptions) :
    ((∃ l, h.IsLeft (h.render script output o).2 output l) ↔
      h.HandsOver output o ∧ Utf8.encode? script = none) ∧
    ∀ l, h.IsLeft (h.render script output o).2 output l →
      l.dropLast = h.transient ∧
      (h.render script output o).2.files.get? l = some (.file []) ∧
      (h.render script output o).1 = .error (.file .unencodable) := by
  refine ⟨⟨fun ⟨l, hleft⟩ => ?_, fun ⟨hover, hscript⟩ => ⟨_, hover.isLeft hscript⟩⟩,
    fun l hleft => ?_⟩
  · have hover := HandsOver.of_isLeft hleft
    exact ⟨hover, (hover.eq_of_isLeft hleft).2⟩
  · have hover := HandsOver.of_isLeft hleft
    obtain ⟨hl, hscript⟩ := hover.eq_of_isLeft hleft
    refine ⟨?_, ?_, hover.render_unencodable hscript⟩
    · rw [hl, transientScript, List.dropLast_concat]
      rfl
    · obtain ⟨-, -, hout, hkept⟩ := hleft
      rw [hover.render_get? script hout hkept, if_pos ⟨hl, hscript⟩]

/-- Half a surrogate pair has no bytes: with a renderer that would succeed, its file is left. -/
theorem render_leaves_surrogate :
    ∃ l, (ofStatus 0).IsLeft
      ((ofStatus 0).render [.surrogate 0x3D] (Path.ofText "a.svg") {}).2 (Path.ofText "a.svg") l := by
  refine ⟨_, HandsOver.isLeft (o := {}) ⟨⟨.svg, by decide, by decide⟩, by decide, by decide, rfl⟩ ?_⟩
  decide

end Host

end JqFlow
