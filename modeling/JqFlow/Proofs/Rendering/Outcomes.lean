import JqFlow.Proofs.Rendering.Runs

/-!
# How rendering comes out

Rendering comes out in one of five ways, whatever the output is, whatever is in the file tree, and
whatever the renderer does. Nothing but the output and the script beside it is written, and folders
are made only on the way to them. What is left out are outputs with a part that cannot be handed to
the system, and renderers whose run does not come to an end: because the layout cannot be handed to
them, because the clock cannot measure the time limit, or because what they print in time is no text.

## Main definitions

- `Rendering`, `Host.ComesOut`: the ways in which rendering comes out
- `Host.CanRender`: what has to be there before

## Main statements

- `Host.ComesOut.existsUnique`: the ways exclude each other
- `Host.render_comesOut`: rendering comes out in exactly one way
- `Host.not_comesOut_embeddedNull`: the output has to be one that can be handed to the system
-/

namespace JqFlow

/-- The ways in which rendering comes out. -/
inductive Rendering
  | unsupported
  | written
  | missing
  | rendered
  | failed
  deriving DecidableEq

/-- The way that a result tells, if it tells one. -/
def Rendering.of? : Except RenderError Rendered → Option Rendering
  | .ok ⟨_, some _, _⟩ => some written
  | .ok ⟨_, none, _⟩ => some rendered
  | .error (.unsupported ..) => some unsupported
  | .error (.notFound ..) => some missing
  | .error (.failed ..) => some failed
  | .error _ => none

/-- Does a path ask for an image? -/
def Path.IsImage (p : Path) : Prop :=
  ∃ format, p.format? = some format ∧ format ≠ .script

namespace Host

/-- Rendering of a script with the bytes `content` comes out in a way: when it does, what is answered,
and what is there afterwards. -/
inductive ComesOut (h : Host) (content : Bytes) (output : Path) (o : RenderOptions)
    (x : Except RenderError Rendered × Host) : Rendering → Prop
  /-- With another suffix nothing is done. -/
  | unsupported : output.format? = none →
      x = (.error (.unsupported output.formatSuffix OutputFormat.suffixes), h) →
      ComesOut h content output o x .unsupported
  /-- The output is the script. Nothing is run. -/
  | written : output.format? = some .script →
      x.1 = .ok ⟨Path.ofLocation (output.locate h.here),
        some (Path.ofLocation (output.locate h.here)), []⟩ →
      x.2.files.get? (output.locate h.here) = some (.file content) → x.2.commands = h.commands →
      ComesOut h content output o x .written
  /-- There is no renderer to run. The script is beside the output, which is as before. -/
  | missing : output.IsImage → h.renderer? o.renderer = none →
      x.1 = .error (.notFound o.renderer (Path.ofLocation (output.scriptLocation h.here))
        (Path.ofLocation (output.locate h.here))) →
      x.2.files.get? (output.scriptLocation h.here) = some (.file content) →
      x.2.files.get? (output.locate h.here) = h.files.get? (output.locate h.here) →
      x.2.commands = h.commands → ComesOut h content output o x .missing
  /-- The renderer succeeds. The output is what it left, and nothing is kept beside it. -/
  | rendered {r : Renderer} {prints : Text} : output.IsImage → h.renderer? o.renderer = some r →
      r.Succeeds o.timeout prints →
      x.1 = .ok ⟨Path.ofLocation (output.locate h.here), none, prints⟩ →
      x.2.files.get? (output.scriptLocation h.here) =
        h.files.get? (output.scriptLocation h.here) →
      x.2.files.get? (output.locate h.here) =
        (r.leaves.map FileItem.file).or (h.files.get? (output.locate h.here)) →
      ComesOut h content output o x .rendered
  /-- The renderer fails. The output is what it left, and the script is beside it. -/
  | failed {r : Renderer} {status : Option Int} {prints : Text} : output.IsImage →
      h.renderer? o.renderer = some r → r.Fails o.timeout status prints →
      x.1 = .error (.failed o.renderer status prints
        (Path.ofLocation (output.scriptLocation h.here))) →
      x.2.files.get? (output.scriptLocation h.here) = some (.file content) →
      x.2.files.get? (output.locate h.here) =
        (r.leaves.map FileItem.file).or (h.files.get? (output.locate h.here)) →
      ComesOut h content output o x .failed

/-- What has to be there before rendering to an output: names on the way to the working folder and to
the folder for transient files that can be arguments, a way to the output, no folder in place of it
or of its script, and a renderer, if there is one, whose run comes to an end. This leaves out layouts
that cannot be arguments and time limits that the clock cannot measure. -/
structure CanRender (h : Host) (output : Path) (o : RenderOptions) : Prop where
  plain : h.here.IsPlain
  passable : ∀ part ∈ h.here, part.CanPass
  transient : ∀ part ∈ h.transient, part.CanPass
  folder : (h.files.makeFolders [] (Path.ofLocation (output.locate h.here).dropLast)).1 = none
  target : h.files.get? (output.locate h.here) ≠ some .folder
  script : h.files.get? (output.scriptLocation h.here) ≠ some .folder
  renderer : ∀ r, h.renderer? o.renderer = some r → r.Ends o

variable {h : Host} {script : Text} {content : Bytes} {output : Path} {o : RenderOptions}
  {x : Except RenderError Rendered × Host}

/-! ### One way only -/

theorem ComesOut.of?_eq {way : Rendering} (hx : ComesOut h content output o x way) :
    Rendering.of? x.1 = some way := by
  cases hx with
  | unsupported _ heq => rw [heq, Rendering.of?]
  | written _ heq => rw [heq, Rendering.of?]
  | missing _ _ heq => rw [heq, Rendering.of?]
  | rendered _ _ _ heq => rw [heq, Rendering.of?]
  | failed _ _ _ heq => rw [heq, Rendering.of?]

/-- The ways exclude each other. -/
theorem ComesOut.existsUnique {way : Rendering} (hx : ComesOut h content output o x way) :
    ∃! way, ComesOut h content output o x way :=
  ⟨way, hx, fun _ hx' => Option.some.inj (hx'.of?_eq.symm.trans hx.of?_eq)⟩

/-! ### Transient scripts -/

/-- A transient script has a longer name than what is written to and beside an output. -/
theorem transientScript_ne (h : Host) (folder folder' : Location) {name name' : Text}
    (hlength : name'.length ≤ name.length + OutputFormat.script.suffix.length) :
    folder' ++ [name'] ≠ h.transientScript (folder ++ [name]) := by
  intro heq
  have hname := congrArg List.getLast? heq
  rw [transientScript, List.getLast?_concat, List.getLast?_concat] at hname
  have hlt := FileTree.length_lt_fresh h.files folder name (.file []) OutputFormat.script.suffix
  rw [← Option.some.inj hname] at hlt
  omega

section Transient

variable {format : OutputFormat} {here : Location} {r : Renderer}

theorem locate_ne_transientScript (hformat : output.format? = some format) (h : Host)
    (here : Location) : output.locate here ≠ h.transientScript (output.locate here) := by
  obtain ⟨hname, hup⟩ := Path.name_of_format? hformat
  rw [Path.locate_eq hname hup]
  exact transientScript_ne h _ _ (Nat.le_add_right _ _)

theorem scriptLocation_ne_transientScript (hformat : output.format? = some format) (h : Host)
    (here : Location) :
    output.scriptLocation here ≠ h.transientScript (output.locate here) := by
  obtain ⟨hname, hup⟩ := Path.name_of_format? hformat
  -- The stem is the name or a part of it.
  have hcut := congrArg List.length (Path.cut_append output.name)
  rw [List.length_append] at hcut
  rw [Path.locate_eq hname hup, Path.scriptLocation]
  refine transientScript_ne h _ _ ?_
  rw [List.length_append, Path.stem]
  omega

/-- A run on a transient script leaves what the renderer left at the output, the script beside it if
the renderer failed, and everything else as it was. -/
theorem renderTransient_eq (hscript : Utf8.encode? script = some content)
    (hformat : output.format? = some format) (himage : format ≠ .script)
    (htarget : h.files.get? (output.locate here) ≠ some .folder)
    (hkept : h.files.get? (output.scriptLocation here) ≠ some .folder)
    (htransient : ∀ part ∈ h.transient, part.CanPass)
    (hpass : ∀ part ∈ output.locate here, part.CanPass) (hends : r.Ends o)
    (hx : h.renderTransient script (output.locate here) r o = x) :
    (∀ l, l ≠ output.locate here → l ≠ output.scriptLocation here →
        x.2.files.get? l = h.files.get? l) ∧
      x.2.files.get? (output.locate here) =
        (r.leaves.map FileItem.file).or (h.files.get? (output.locate here)) ∧
      ((∃ prints, r.Succeeds o.timeout prints ∧
          x.1 = .ok ⟨Path.ofLocation (output.locate here), none, prints⟩ ∧
          x.2.files.get? (output.scriptLocation here) =
            h.files.get? (output.scriptLocation here)) ∨
        ∃ status prints, r.Fails o.timeout status prints ∧
          x.1 = .error (.failed o.renderer status prints
            (Path.ofLocation (output.scriptLocation here))) ∧
          x.2.files.get? (output.scriptLocation here) = some (.file content)) := by
  have hpath := Path.scriptPath?_locate hformat here
  have hne := Path.scriptLocation_ne hformat himage here
  have hkeptNil : output.scriptLocation here ≠ [] := List.concat_ne_nil _ _
  have htargetSource := locate_ne_transientScript hformat h here
  have hkeptSource := scriptLocation_ne_transientScript hformat h here
  have hnone := get?_transientScript h (output.locate here)
  have hsource := canPass_transientScript htransient (output.locate here)
  have hwrite := FileTree.writeTextAt_eq (by rw [hnone]; simp) hscript
  simp only [renderTransient, hwrite] at hx
  generalize h.transientScript (output.locate here) = source at *
  have hput {l : Location} (hl : l ≠ source) :
      (h.withFiles (h.files.put source (.file content))).files.get? l = h.files.get? l :=
    FileTree.get?_put_of_ne hl
  obtain ⟨h', hfiles, hrun⟩ := renderFile_eq hpath hscript hne
    (by rwa [hput hkeptSource]) hsource (Path.canPass_toText_iff.mpr hpass) hends
  -- What is there before the script is kept and the transient one is removed.
  have hrest {l : Location} (hl : l ≠ source) (hltarget : l ≠ output.locate here) :
      h'.files.get? l = h.files.get? l := by
    rw [hfiles, get?_leave_of_ne hltarget, hput hl]
  have hleft : h'.files.get? (output.locate here) =
      (r.leaves.map FileItem.file).or (h.files.get? (output.locate here)) := by
    rw [hfiles, get?_leave_self (Path.locate_ne_nil hformat here) (by rwa [hput htargetSource]),
      hput htargetSource]
  rcases hrun with ⟨prints, hsucceeds, heq⟩ | ⟨status, prints, hfails, heq⟩
  · rw [heq] at hx
    subst hx
    exact ⟨fun l hltarget _ => FileTree.get?_erase_of_agrees hnone fun hl => hrest hl hltarget,
      (FileTree.get?_erase_of_ne htargetSource).trans hleft,
      .inl ⟨prints, hsucceeds, rfl,
        FileTree.get?_erase_of_agrees hnone fun hl => hrest hl hne⟩⟩
  · rw [heq] at hx
    subst hx
    exact ⟨fun l hltarget hlkept => FileTree.get?_erase_of_agrees hnone fun hl =>
        (FileTree.get?_put_of_ne hlkept).trans (hrest hl hltarget),
      (FileTree.get?_erase_of_ne htargetSource).trans
        ((FileTree.get?_put_of_ne hne.symm).trans hleft),
      .inr ⟨status, prints, hfails, rfl,
        (FileTree.get?_erase_of_ne hkeptSource).trans (FileTree.get?_put_self hkeptNil)⟩⟩

end Transient

/-! ### Rendering -/

section Rendering

variable {format : OutputFormat} {files : FileTree}

/-- Rendering comes out in some way once the folders around the output are made, and writes nothing
but the output and its script. -/
theorem renderTo_comesOut (hscript : Utf8.encode? script = some content)
    (hparts : ∀ part ∈ output.parts, part.CanPass) (hcan : h.CanRender output o)
    (hformat : output.format? = some format)
    (htarget : files.get? (output.locate h.here) = h.files.get? (output.locate h.here))
    (hkept : files.get? (output.scriptLocation h.here) =
      h.files.get? (output.scriptLocation h.here))
    (hx : (h.withFiles files).renderTo script (output.locate h.here) format o = x) :
    (∃ way, ComesOut h content output o x way) ∧
      ∀ l, l ≠ output.locate h.here → l ≠ output.scriptLocation h.here →
        x.2.files.get? l = files.get? l := by
  have hpass : ∀ part ∈ output.locate h.here, part.CanPass := fun part hpart =>
    (Path.mem_locate hpart).elim (hcan.passable part) (hparts part)
  have htargetFree : (h.withFiles files).files.get? (output.locate h.here) ≠ some .folder :=
    htarget ▸ hcan.target
  have hkeptFree : (h.withFiles files).files.get? (output.scriptLocation h.here) ≠ some .folder :=
    hkept ▸ hcan.script
  by_cases himage : format = .script
  · subst himage
    simp only [renderTo, FileTree.writeTextAt_eq htargetFree hscript] at hx
    subst hx
    exact ⟨⟨.written, .written hformat rfl
        (FileTree.get?_put_self (Path.locate_ne_nil hformat h.here)) rfl⟩,
      fun l hl _ => FileTree.get?_put_of_ne hl⟩
  · have hisImage : output.IsImage := ⟨format, hformat, himage⟩
    have hne := Path.scriptLocation_ne hformat himage h.here
    have hrenderer : (h.withFiles files).renderer? o.renderer = h.renderer? o.renderer := rfl
    rw [renderTo_image _ _ _ himage] at hx
    cases hr : h.renderer? o.renderer with
    | none =>
      have hkeep := keepAndFail_of_path (h := h.withFiles files)
        (Path.scriptPath?_locate hformat h.here) hscript hkeptFree
      have hkeptNil : output.scriptLocation h.here ≠ [] := List.concat_ne_nil _ _
      simp only [renderTo, hrenderer, hr, hkeep] at hx
      subst hx
      exact ⟨⟨.missing, .missing hisImage hr rfl (FileTree.get?_put_self hkeptNil)
          ((FileTree.get?_put_of_ne hne.symm).trans htarget) rfl⟩,
        fun l _ hl => FileTree.get?_put_of_ne hl⟩
    | some r =>
      simp only [renderTo, hrenderer, hr] at hx
      obtain ⟨hrest, hleft, hrun⟩ := renderTransient_eq hscript hformat himage htargetFree hkeptFree
        hcan.transient hpass (hcan.renderer r hr) hx
      have hleft := hleft.trans (congrArg (r.leaves.map FileItem.file).or htarget)
      refine ⟨?_, hrest⟩
      rcases hrun with ⟨prints, hsucceeds, heq, hbeside⟩ | ⟨status, prints, hfails, heq, hbeside⟩
      · exact ⟨.rendered, .rendered hisImage hr hsucceeds heq (hbeside.trans hkept) hleft⟩
      · exact ⟨.failed, .failed hisImage hr hfails heq hbeside hleft⟩

/-- Rendering comes out in exactly one way: it is refused for the suffix of the output, the script is
written, there is no renderer, or it succeeds or fails. In every case nothing but the output and its
script is written, and folders are made where nothing was, on the way to the output. -/
theorem render_comesOut (hscript : Utf8.encode? script = some content)
    (hparts : ∀ part ∈ output.parts, part.CanPass) (hcan : h.CanRender output o) :
    (∃! way, ComesOut h content output o (h.render script output o) way) ∧
      ∀ l, l ≠ output.locate h.here → l ≠ output.scriptLocation h.here →
        FileTree.KeptOrMade h.files (h.render script output o).2.files
          (output.locate h.here).dropLast l := by
  cases hformat : output.format? with
  | none =>
    have hx : h.render script output o =
        (.error (.unsupported output.formatSuffix OutputFormat.suffixes), h) := by
      rw [render, hformat]
    have hway : ComesOut h content output o (h.render script output o) .unsupported :=
      .unsupported hformat hx
    exact ⟨hway.existsUnique, fun l _ _ => .inl (by rw [hx])⟩
  | some format =>
    obtain ⟨hname, hup⟩ := Path.name_of_format? hformat
    have hfolder : (output.locate h.here).dropLast = output.parent.locate h.here := by
      rw [Path.locate_eq hname hup, List.dropLast_concat]
    obtain ⟨files, hmake⟩ : ∃ files,
        h.files.makeFolders [] (Path.ofLocation (output.locate h.here).dropLast) = (none, files) :=
      ⟨_, Prod.ext hcan.folder rfl⟩
    have hmade (l : Location) :
        FileTree.KeptOrMade h.files files (output.locate h.here).dropLast l := by
      have hframe : FileTree.KeptOrMade h.files (h.files.makeFolders [] (Path.ofLocation _)).2
          (output.locate h.here).dropLast l :=
        h.files.makeFoldersFrom_keptOrMade []
          (hfolder ▸ output.parent.locate_plain hcan.plain) false l
      rwa [hmake] at hframe
    have hbeside (part : Text) : files.get? (output.parent.locate h.here ++ [part]) =
        h.files.get? (output.parent.locate h.here ++ [part]) :=
      FileTree.KeptOrMade.get?_concat (hfolder ▸ hmade _)
    obtain ⟨⟨way, hway⟩, hrest⟩ := renderTo_comesOut hscript hparts hcan hformat
      (by rw [Path.locate_eq hname hup, hbeside]) (hbeside _) rfl
    rw [render_of_makeFolders hformat hparts hmake]
    refine ⟨hway.existsUnique, fun l htarget hkept => ?_⟩
    rw [FileTree.KeptOrMade, hrest l htarget hkept]
    exact hmade l

/-- A host with nothing but a renderer, which leaves nothing, says nothing and ends with a status. -/
def ofStatus (status : Int) : Host :=
  ⟨⟨[]⟩, [], [], [(Text.ofString "d2", ⟨"/bin/d2", .zero, none, [], status⟩)], []⟩

theorem ends_ofStatus (status : Int) (r : Renderer)
    (h : (ofStatus status).renderer? (Text.ofString "d2") = some r) : r.Ends {} := by
  have hr : some (⟨"/bin/d2", .zero, none, [], status⟩ : Renderer) = some r := h
  obtain rfl := Option.some.inj hr
  refine ⟨fun layout hlayout => ?_, fun _ hlimit => absurd hlimit (Option.not_mem_none _),
    fun _ => ⟨[], rfl⟩⟩
  obtain rfl := Option.some.inj hlayout
  decide

/-- With a renderer that ends with the status 1, an image in a folder that is not there yet comes out
in one way, and nothing but the folder is made beside the two files. -/
theorem render_comesOut_status :
    Utf8.encode? "x" = some [0x78] ∧ (∀ part ∈ (Path.ofText "new/a.svg").parts, part.CanPass) ∧
    (ofStatus 1).CanRender (Path.ofText "new/a.svg") {} ∧
    (∃! way, ComesOut (ofStatus 1) [0x78] (Path.ofText "new/a.svg") {}
      ((ofStatus 1).render "x" (Path.ofText "new/a.svg") {}) way) ∧
    ∀ l, l ≠ (Path.ofText "new/a.svg").locate [] → l ≠ (Path.ofText "new/a.svg").scriptLocation [] →
      FileTree.KeptOrMade ⟨[]⟩ ((ofStatus 1).render "x" (Path.ofText "new/a.svg") {}).2.files
        ((Path.ofText "new/a.svg").locate []).dropLast l := by
  have hscript : Utf8.encode? "x" = some [0x78] := by decide
  have hparts : ∀ part ∈ (Path.ofText "new/a.svg").parts, part.CanPass := by decide
  have hcan : (ofStatus 1).CanRender (Path.ofText "new/a.svg") {} :=
    ⟨by decide, by decide, by decide, by decide, by decide, by decide, ends_ofStatus 1⟩
  exact ⟨hscript, hparts, hcan, render_comesOut hscript hparts hcan⟩

/-- The parts of the output have to be ones that can be handed to the system: with a zero in its name,
though nothing else stands in the way, rendering comes out in none of the ways. -/
theorem not_comesOut_embeddedNull :
    Utf8.encode? "x" = some [0x78] ∧ (ofStatus 0).CanRender (Path.ofText "a\x00.svg") {} ∧
    ((ofStatus 0).render "x" (Path.ofText "a\x00.svg") {}).1 = .error (.argument .embeddedNull) ∧
    ¬ ∃ way, ComesOut (ofStatus 0) [0x78] (Path.ofText "a\x00.svg") {}
      ((ofStatus 0).render "x" (Path.ofText "a\x00.svg") {}) way := by
  have hcan : (ofStatus 0).CanRender (Path.ofText "a\x00.svg") {} :=
    ⟨by decide, by decide, by decide, by decide, by decide, by decide, ends_ofStatus 0⟩
  have hx : ((ofStatus 0).render "x" (Path.ofText "a\x00.svg") {}).1 =
      .error (.argument .embeddedNull) := by rfl
  refine ⟨by decide, hcan, hx, fun ⟨way, hway⟩ => ?_⟩
  have hof := hway.of?_eq
  rw [hx] at hof
  exact absurd hof (by simp [Rendering.of?])

end Rendering

end Host

end JqFlow
