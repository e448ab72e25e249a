import JqFlow.Proofs.Files.Path

/-!
# The script kept beside an output

An output that cannot be drawn leaves its script beside it, under its own stem. The path of the
script is an output as well, and one that is kept where it is.

## Main definitions

- `Path.script`, `Path.IsScriptOf`: the path of the script of an output, and what is asked of it

## Main statements

- `Path.script_isScriptOf`: every path that tells a format has a script beside it
- `Path.script_eq_self_iff`: outputs that are their own scripts
- `Path.scriptPath?_inj`, `Path.scriptPath?_locate_inj`: outputs that share a script
- `Path.scriptPath?_ofText`: all of it for paths that are read from a text
-/

namespace JqFlow

namespace Path

variable {p q : Path} {format format' : OutputFormat}

/-! ### The path of the script -/

/-- The path in the folder of an output with the output's stem and the suffix of scripts. -/
def script (p : Path) : Path :=
  p.parent.child (p.stem ++ OutputFormat.script.suffix)

theorem scriptPath?_eq (h : p.format? = some format) : p.scriptPath? = some p.script := by
  rw [scriptPath?, withSuffix?, if_neg (name_of_format? h).1, script]

theorem parent_script (p : Path) : p.script.parent = p.parent :=
  parent_child _ _

theorem cut_script (h : p.format? = some format) :
    cut p.script.name = (p.stem, OutputFormat.script.suffix) := by
  rw [script, name_child]
  exact cut_concat (cut_fst_ne_nil (name_of_format? h).1) (by decide) (by decide)

theorem stem_script (h : p.format? = some format) : p.script.stem = p.stem := by
  rw [stem, cut_script h]

theorem suffix_script (h : p.format? = some format) :
    p.script.suffix = OutputFormat.script.suffix := by
  rw [suffix, cut_script h]

theorem format?_script (h : p.format? = some format) : p.script.format? = some .script := by
  rw [format?, formatSuffix, suffix_script h]
  decide

theorem script_script (h : p.format? = some format) : p.script.script = p.script := by
  rw [script, parent_script, stem_script h, script]

/-- An output is its own script if and only if it has the very suffix of scripts; one in capitals
is not enough. -/
theorem script_eq_self_iff (h : p.format? = some format) :
    p.script = p ↔ p.suffix = OutputFormat.script.suffix :=
  calc
    p.script = p ↔ p.script = p.parent.child (p.stem ++ p.suffix) := by
      rw [stem_append_suffix, child_name (name_of_format? h).1]
    _ ↔ OutputFormat.script.suffix = p.suffix := by
      rw [script, child_inj, List.append_right_inj]
      exact and_iff_right rfl
    _ ↔ p.suffix = OutputFormat.script.suffix := eq_comm

theorem IsNormal.script (hp : p.IsNormal) (h : p.format? = some format) : p.script.IsNormal := by
  have hslash : CodePoint.scalar '/' ∉ p.stem ++ OutputFormat.script.suffix := by
    have hname := (hp p.name (name_mem_parts (name_of_format? h).1)).2.2
    rw [← stem_append_suffix p] at hname
    exact fun hmem => (List.mem_append.mp hmem).elim
      (fun hmem => hname (List.mem_append_left _ hmem)) (by decide)
  have hdot : p.stem ++ OutputFormat.script.suffix ≠ "." := fun hdot =>
    absurd (congrArg List.length hdot) (by simp [OutputFormat.suffix, Text.ofString])
  exact hp.parent.child ⟨List.append_ne_nil_of_right_ne_nil _ (by decide), hdot, hslash⟩

/-- A path is that of the script of an output: it has the output's folder and stem and the suffix of
scripts, it is kept where it is, it is read back from how it is written, and it is the output itself
if and only if the output has this very suffix. -/
structure IsScriptOf (s p : Path) : Prop where
  parent : s.parent = p.parent
  stem : s.stem = p.stem
  suffix : s.suffix = OutputFormat.script.suffix
  format : s.format? = some .script
  kept : s.scriptPath? = some s
  written : ofText s.toText = s
  self : s = p ↔ p.suffix = OutputFormat.script.suffix

/-- Every path that tells a format has a script beside it. -/
theorem script_isScriptOf (hp : p.IsNormal) (h : p.format? = some format) :
    p.script.IsScriptOf p where
  parent := parent_script p
  stem := stem_script h
  suffix := suffix_script h
  format := format?_script h
  kept := by rw [scriptPath?_eq (format?_script h), script_script h]
  written := (hp.script h).ofText_toText
  self := script_eq_self_iff h

/-! ### Outputs that share a script -/

/-- Two outputs have the same script if and only if they have the same folder and the same stem. -/
theorem scriptPath?_inj (h : p.format? = some format) (h' : q.format? = some format') :
    p.scriptPath? = q.scriptPath? ↔ p.parent = q.parent ∧ p.stem = q.stem := by
  rw [scriptPath?_eq h, scriptPath?_eq h', Option.some_inj, script, script, child_inj,
    List.append_left_inj]

/-- Two outputs lead to the same script if and only if their folders are the same place and their
stems are the same. -/
theorem scriptPath?_locate_inj (h : p.format? = some format) (h' : q.format? = some format')
    (here : Location) :
    (ofLocation (p.locate here)).scriptPath? = (ofLocation (q.locate here)).scriptPath? ↔
      p.parent.locate here = q.parent.locate here ∧ p.stem = q.stem := by
  rw [scriptPath?_locate h, scriptPath?_locate h', Option.some_inj]
  constructor
  · intro heq
    have hlocation : p.scriptLocation here = q.scriptLocation here := congrArg parts heq
    obtain ⟨hfolder, hscript⟩ := List.append_inj' hlocation rfl
    exact ⟨hfolder, List.append_cancel_right (List.singleton_inj.mp hscript)⟩
  · rintro ⟨hfolder, hstem⟩
    rw [scriptLocation, scriptLocation, hfolder, hstem]

/-! ### Paths that are read from a text -/

/-- Every text of a path that tells a format has a script beside it, and another such path has the
same one if and only if it has the same folder and the same stem; where the two lead to, this is if
and only if the folders are the same place and the stems are the same. -/
theorem scriptPath?_ofText {t : Text} (h : (ofText t).format? = some format) :
    (∃ s, (ofText t).scriptPath? = some s ∧ s.IsScriptOf (ofText t)) ∧
      ∀ t' format', (ofText t').format? = some format' →
        ((ofText t).scriptPath? = (ofText t').scriptPath? ↔
          (ofText t).parent = (ofText t').parent ∧ (ofText t).stem = (ofText t').stem) ∧
        ∀ here, (ofLocation ((ofText t).locate here)).scriptPath? =
            (ofLocation ((ofText t').locate here)).scriptPath? ↔
          (ofText t).parent.locate here = (ofText t').parent.locate here ∧
            (ofText t).stem = (ofText t').stem :=
  ⟨⟨_, scriptPath?_eq h, script_isScriptOf (isNormal_ofText t) h⟩, fun _ _ h' =>
    ⟨scriptPath?_inj h h', scriptPath?_locate_inj h h'⟩⟩

/-- A path with two slashes at its start, a dot on the way and a suffix in capitals, and one in the
same folder with the same stem. -/
theorem scriptPath?_ofText_capitals :
    (ofText "//a/./..b..SVG").format? = some .svg ∧
      (ofText "//a///..b..pdf").format? = some .pdf ∧
      (∃ s, (ofText "//a/./..b..SVG").scriptPath? = some s ∧
        s.IsScriptOf (ofText "//a/./..b..SVG")) ∧
      (ofText "//a/./..b..SVG").scriptPath? = (ofText "//a///..b..pdf").scriptPath? := by
  have hsvg : (ofText "//a/./..b..SVG").format? = some .svg := by decide +kernel
  have hpdf : (ofText "//a///..b..pdf").format? = some .pdf := by decide +kernel
  obtain ⟨hscript, hshared⟩ := scriptPath?_ofText hsvg
  exact ⟨hsvg, hpdf, hscript, (hshared _ _ hpdf).1.mpr (by decide +kernel)⟩

end Path

end JqFlow
