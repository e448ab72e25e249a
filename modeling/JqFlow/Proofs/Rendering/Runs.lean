import JqFlow.Proofs.Files.Path
import JqFlow.Rendering.Render

/-!
# Runs of a renderer

What can be handed to a renderer, how its run ends, and what is there after it.

## Main definitions

- `Text.CanPass`: can a text be an argument?
- `Renderer.TimesOut`: does a renderer take too long?
- `Renderer.Succeeds`, `Renderer.Fails`: how a run comes out
- `Renderer.Ends`: does a run come to an end?

## Main statements

- `findSome?_renderArgs`: only the layout can keep a renderer from being called
- `Host.outcome_eq`: how a run that can be waited for ends
- `Host.get?_transientScript`: a transient script takes the place of nothing
- `Host.exists_run`: what is there after a run
- `Host.keepAndFail_of_path`: the script that is kept when rendering fails
- `Host.renderFile_eq`: what a run on a file gives
-/

namespace JqFlow

/-! ### Arguments -/

namespace Text

/-- The code points that can be part of an argument. -/
def CanPass (t : Text) : Prop :=
  ∀ c ∈ t, c.isPassable = true ∧ c ≠ .scalar '\x00'

instance (t : Text) : Decidable t.CanPass :=
  inferInstanceAs (Decidable (∀ c ∈ t, c.isPassable = true ∧ c ≠ .scalar '\x00'))

theorem argumentFault?_eq_none_iff {t : Text} : t.argumentFault? = none ↔ t.CanPass := by
  rw [argumentFault?]
  split
  · next h =>
    refine iff_of_false (by simp) fun hpass => ?_
    rw [List.all_eq_true.mpr fun c hc => (hpass c hc).1] at h
    exact absurd h (by decide)
  · next h =>
    rw [Bool.not_eq_true', Bool.not_eq_false, List.all_eq_true] at h
    split
    · next hnull =>
      refine iff_of_false (by simp) fun hpass => ?_
      exact (hpass _ (List.contains_iff_mem.mp hnull)).2 rfl
    · next hnull =>
      refine iff_of_true rfl fun c hc => ⟨h c hc, ?_⟩
      rintro rfl
      exact hnull (List.contains_iff_mem.mpr hc)

theorem canPass_append_iff {s t : Text} : CanPass (s ++ t) ↔ s.CanPass ∧ t.CanPass :=
  List.forall_mem_append

theorem canPass_join_iff {separator : Text} (h : separator.CanPass) {parts : List Text} :
    CanPass (Text.join separator parts) ↔ ∀ part ∈ parts, part.CanPass := by
  induction parts with
  | nil => exact iff_of_true (fun c hc => absurd hc List.not_mem_nil) (by simp)
  | cons part parts ih =>
    cases parts with
    | nil => simp [Text.join, List.intercalate]
    | cons part' parts =>
      rw [Text.join, List.intercalate_cons_cons, canPass_append_iff, canPass_append_iff,
        and_iff_left h, List.forall_mem_cons]
      exact and_congr_right fun _ => ih

end Text

namespace Path

/-- A path can be an argument exactly if its parts can. -/
theorem canPass_toText_iff {p : Path} : p.toText.CanPass ↔ ∀ part ∈ p.parts, part.CanPass := by
  have hroot : p.root.toText.CanPass := by
    cases p.root <;> decide
  have hslash : Text.CanPass "/" := by decide
  have hwritten : Text.CanPass (p.root.toText ++ Text.join "/" p.parts) ↔
      ∀ part ∈ p.parts, part.CanPass := by
    rw [Text.canPass_append_iff, and_iff_right hroot, Text.canPass_join_iff hslash]
  rw [← hwritten, toText]
  split
  · next hnil =>
    rw [hnil]
    decide
  · exact Iff.rfl

/-- The folder around can be an argument as well. -/
theorem canPass_parent {p : Path} (h : p.toText.CanPass) : p.parent.toText.CanPass :=
  canPass_toText_iff.mpr fun part hpart =>
    canPass_toText_iff.mp h part (List.dropLast_subset _ hpart)

end Path

/-- Only the layout can keep a renderer from being called. -/
theorem findSome?_renderArgs (layout : Option Text) {script output : Path}
    (hscript : script.toText.CanPass) (houtput : output.toText.CanPass) :
    (renderArgs layout script output).findSome? Text.argumentFault? =
      layout.bind Text.argumentFault? := by
  have hs := Text.argumentFault?_eq_none_iff.mpr hscript
  have ho := Text.argumentFault?_eq_none_iff.mpr houtput
  have hoption : Text.argumentFault? "--layout" = none := by decide
  cases layout with
  | none => simp [renderArgs, hs, ho]
  | some layout =>
    rw [renderArgs]
    split
    · next hnil =>
      subst hnil
      simp [hs, ho]
      rfl
    · cases hl : layout.argumentFault? <;> simp [hs, ho, hl, hoption]

/-! ### Renderers -/

namespace Renderer

/-- Does a renderer take longer than it may? -/
def TimesOut (r : Renderer) (limit : Option Seconds) : Prop :=
  ∃ l ∈ limit, l.le r.duration = true

/-- A run ends in time, with the status zero and after saying so much. -/
def Succeeds (r : Renderer) (limit : Option Seconds) (prints : Text) : Prop :=
  ¬ r.TimesOut limit ∧ r.status = 0 ∧ FileTree.textOf r.prints = .ok prints

/-- A run fails, without a status or with one, and what is reported of it. -/
inductive Fails (r : Renderer) (limit : Option Seconds) : Option Int → Text → Prop
  | late : r.TimesOut limit →
      Fails r limit none
        ("no result after " ++ ((limit.map Seconds.toText).getD []) ++ " seconds")
  | inTime {prints : Text} : ¬ r.TimesOut limit → r.status ≠ 0 →
      FileTree.textOf r.prints = .ok prints → Fails r limit (some r.status) prints

/-- A run with these options comes to an end: it can be begun and waited for, and what is said in
time is text. -/
structure Ends (r : Renderer) (o : RenderOptions) : Prop where
  layout : ∀ layout ∈ o.layout, layout.CanPass
  timeout : ∀ limit ∈ o.timeout, limit.unmeasurable? = none
  prints : ¬ r.TimesOut o.timeout → ∃ t, FileTree.textOf r.prints = .ok t

end Renderer

/-- How a run that can be waited for ends. -/
theorem Host.outcome_eq {r : Renderer} {limit : Option Seconds}
    (h : ∀ l ∈ limit, l.unmeasurable? = none) :
    (r.TimesOut limit ∧ outcome r limit = .timedOut) ∨
      ¬ r.TimesOut limit ∧
        ((∃ t, FileTree.textOf r.prints = .ok t ∧ outcome r limit = .finished r.status t) ∨
          ∃ e, FileTree.textOf r.prints = .error e ∧ outcome r limit = .unreadable e) := by
  have hlimit : limit.bind Seconds.unmeasurable? = none := Option.bind_eq_none_iff.mpr h
  have htimes : r.TimesOut limit ↔ (limit.map fun limit => limit.le r.duration).getD false = true := by
    cases limit <;> simp [Renderer.TimesOut]
  rw [htimes, outcome, hlimit]
  by_cases hout : (limit.map fun limit => limit.le r.duration).getD false = true
  · exact .inl ⟨hout, by simp [hout]⟩
  · refine .inr ⟨hout, ?_⟩
    cases hprints : FileTree.textOf r.prints with
    | ok t => exact .inl ⟨t, rfl, by simp [hout]⟩
    | error e => exact .inr ⟨e, rfl, by simp [hout]⟩

theorem Host.outcome_unmeasurable (r : Renderer) {limit : Option Seconds}
    (h : ¬ ∀ l ∈ limit, l.unmeasurable? = none) : ∃ e, outcome r limit = .unmeasurable e := by
  obtain ⟨e, he⟩ := Option.ne_none_iff_exists'.mp fun hnone => h (Option.bind_eq_none_iff.mp hnone)
  exact ⟨e, by rw [outcome, he]⟩

/-! ### Hosts -/

theorem FileTree.canPass_fresh (t : FileTree) {suffix : Text} (hsuffix : suffix.CanPass) :
    (t.fresh suffix).CanPass := by
  refine Text.canPass_append_iff.mpr ⟨fun c hc => ?_, hsuffix⟩
  rw [List.eq_of_mem_replicate hc]
  decide

namespace Host

variable {h : Host} {script : Text} {content : Bytes} {out kept : Location}

/-- The script is kept at its path beside the output. -/
theorem keepAndFail_of_path
    (hpath : (Path.ofLocation out).scriptPath? = some (Path.ofLocation kept))
    (hscript : Utf8.encode? script = some content) (hfree : h.files.get? kept ≠ some .folder)
    (error : Path → RenderError) :
    h.keepAndFail script out error =
      (error (Path.ofLocation kept), h.withFiles (h.files.put kept (.file content))) := by
  rw [keepAndFail, keepScript]
  simp only [hpath]
  have hwrite := FileTree.writeTextAt_eq hfree hscript
  simp only [Path.ofLocation] at hwrite ⊢
  rw [hwrite]

/-- A script without bytes is not kept. -/
theorem keepAndFail_unencodable
    (hpath : (Path.ofLocation out).scriptPath? = some (Path.ofLocation kept))
    (hscript : Utf8.encode? script = none) (hfree : h.files.get? kept ≠ some .folder)
    (error : Path → RenderError) :
    (h.keepAndFail script out error).1 = .file .unencodable := by
  rw [keepAndFail, keepScript]
  simp only [hpath]
  have hwrite := FileTree.writeTextAt_unencodable hfree hscript
  simp only [Path.ofLocation] at hwrite ⊢
  rw [hwrite]

/-- Nothing is where a transient script is put. -/
theorem get?_transientScript (h : Host) (output : Location) :
    h.files.get? (h.transientScript output) = none := by
  have hnone := FileTree.get?_fresh (h.files.put output (.file [])) h.transient
    OutputFormat.script.suffix
  by_cases heq : h.transientScript output = output
  · rw [← transientScript, heq] at hnone
    have hne : output ≠ [] := by rw [← heq, transientScript]; simp
    rw [FileTree.get?_put_self hne] at hnone
    exact absurd hnone (by simp)
  · rwa [← transientScript, FileTree.get?_put_of_ne heq] at hnone

theorem canPass_transientScript (hpass : ∀ part ∈ h.transient, part.CanPass) (output : Location) :
    (Path.ofLocation (h.transientScript output)).toText.CanPass :=
  Path.canPass_toText_iff.mpr (List.forall_mem_append.mpr
    ⟨hpass, List.forall_mem_singleton.mpr (FileTree.canPass_fresh _ (by decide))⟩)

theorem get?_leave_of_ne {l l' : Location} (hne : l' ≠ l) (left : Option Bytes) :
    (h.leave l left).files.get? l' = h.files.get? l' := by
  cases left with
  | none => rfl
  | some content =>
    simp only [leave]
    split
    · rfl
    · exact FileTree.get?_put_of_ne hne

/-- What is at a location after a renderer left something there. -/
theorem get?_leave_self (hnil : out ≠ []) (hfree : h.files.get? out ≠ some .folder)
    (left : Option Bytes) :
    (h.leave out left).files.get? out = (left.map FileItem.file).or (h.files.get? out) := by
  cases left with
  | none => rfl
  | some content =>
    simp only [leave, if_neg hfree]
    exact FileTree.get?_put_self hnil

theorem run_refused (r : Renderer) {layout : Option Text} {source output : Location}
    {e : ArgumentFault}
    (hargs : (renderArgs layout (Path.ofLocation source) (Path.ofLocation output)).findSome?
      Text.argumentFault? = some e)
    (limit : Option Seconds) : h.run r layout source output limit = (.refused e, h) := by
  rw [run, hargs]

/-- After a run the files are those that the renderer has left. -/
theorem exists_run (r : Renderer) {layout : Option Text} {source output : Location}
    (hargs : (renderArgs layout (Path.ofLocation source) (Path.ofLocation output)).findSome?
      Text.argumentFault? = none)
    (limit : Option Seconds) :
    ∃ h', h.run r layout source output limit = (outcome r limit, h') ∧
      h'.files = (h.leave output r.leaves).files := by
  rw [run, hargs]
  refine ⟨_, rfl, ?_⟩
  cases r.leaves with
  | none => rfl
  | some content =>
    simp only [leave]
    split <;> rfl

/-- A run that comes to an end leaves nothing but the output if it succeeds; else the script is kept. -/
theorem renderFile_eq {source : Location} {r : Renderer} {o : RenderOptions}
    (hpath : (Path.ofLocation out).scriptPath? = some (Path.ofLocation kept))
    (hscript : Utf8.encode? script = some content) (hne : kept ≠ out)
    (hfree : h.files.get? kept ≠ some .folder)
    (hsource : (Path.ofLocation source).toText.CanPass)
    (hout : (Path.ofLocation out).toText.CanPass) (hends : r.Ends o) :
    ∃ h', h'.files = (h.leave out r.leaves).files ∧
      ((∃ prints, r.Succeeds o.timeout prints ∧
          h.renderFile script source out r o = (.ok ⟨Path.ofLocation out, none, prints⟩, h')) ∨
        ∃ status prints, r.Fails o.timeout status prints ∧
          h.renderFile script source out r o =
            (.error (.failed o.renderer status prints (Path.ofLocation kept)),
              h'.withFiles (h'.files.put kept (.file content)))) := by
  have hlayout : o.layout.bind Text.argumentFault? = none :=
    Option.bind_eq_none_iff.mpr fun layout hl =>
      Text.argumentFault?_eq_none_iff.mpr (hends.layout layout hl)
  obtain ⟨h', hrun, hfiles⟩ := exists_run (h := h) r
    ((findSome?_renderArgs o.layout hsource hout).trans hlayout) o.timeout
  have hkept : h'.files.get? kept ≠ some .folder := by
    rwa [hfiles, get?_leave_of_ne hne]
  refine ⟨h', hfiles, ?_⟩
  simp only [renderFile, hrun]
  rcases outcome_eq hends.timeout with ⟨hlate, heq⟩ | ⟨htime, ⟨t, ht, heq⟩ | ⟨e, he, _⟩⟩
  · rw [heq]
    refine .inr ⟨none, _, .late hlate, ?_⟩
    simp only [keepAndFail_of_path hpath hscript hkept]
  · rw [heq]
    by_cases hstatus : r.status = 0
    · refine .inl ⟨t, ⟨htime, hstatus, ht⟩, ?_⟩
      simp only [hstatus, if_true]
    · refine .inr ⟨some r.status, t, .inTime htime hstatus ht, ?_⟩
      simp only [hstatus, if_false, keepAndFail_of_path hpath hscript hkept]
  · obtain ⟨t, ht⟩ := hends.prints htime
    rw [he] at ht
    exact absurd ht (by simp)

/-- Rendering begins once the folders around the output are made. -/
theorem render_of_makeFolders {output : Path} {format : OutputFormat} {files : FileTree}
    (hformat : output.format? = some format) (hparts : ∀ part ∈ output.parts, part.CanPass)
    (hmake : h.files.makeFolders [] (Path.ofLocation (output.locate h.here).dropLast) =
      (none, files)) (script : Text) (o : RenderOptions) :
    h.render script output o =
      (h.withFiles files).renderTo script (output.locate h.here) format o := by
  have hfault : output.parts.findSome? Text.argumentFault? = none :=
    List.findSome?_eq_none_iff.mpr fun part hpart =>
      Text.argumentFault?_eq_none_iff.mpr (hparts part hpart)
  simp only [render, hformat, hfault, hmake]

/-- All images are rendered alike. -/
theorem renderTo_image {format : OutputFormat} (h : Host) (script : Text) (out : Location)
    (himage : format ≠ .script) (o : RenderOptions) :
    h.renderTo script out format o = h.renderTo script out .svg o := by
  cases format with
  | script => exact absurd rfl himage
  | _ => rfl

end Host

end JqFlow
