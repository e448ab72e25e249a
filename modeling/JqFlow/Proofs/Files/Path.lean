import JqFlow.Proofs.Files.Tree
import JqFlow.Proofs.Text.Cutting
import JqFlow.Rendering.Format

/-!
# Names and paths

The suffix of a path is cut from its name, and a path whose suffix tells a format leads into a
folder, to a file of that name.

## Main definitions

- `Path.IsNormal`: the parts of a path are what the text of a path is read as
- `Path.scriptLocation`: where the script beside a file is

## Main statements

- `Path.cut_append`, `Path.cut_concat`: nothing is lost when a name is cut, and where it is cut
- `Path.IsNormal.ofText_toText`: a path in normal form is read back from how it is written
- `Path.locate_eq`: where a path with a name leads to
- `Path.scriptPath?_locate`: the script beside a file
- `Path.scriptLocation_ne`: an image is not its own script
-/

namespace JqFlow

namespace Path

variable {p q : Path} {part part' : Text}

/-! ### Names -/

/-- Nothing is lost when a name is cut. -/
theorem cut_append (name : Text) : (cut name).1 ++ (cut name).2 = name := by
  have hsplit := congrArg List.reverse (List.takeWhile_append_dropWhile
    (p := fun c => decide (c ≠ CodePoint.scalar '.')) (l := name.reverse))
  rw [List.reverse_append, List.reverse_reverse] at hsplit
  have hdot := List.head?_dropWhile_not (fun c => decide (c ≠ CodePoint.scalar '.')) name.reverse
  revert hsplit hdot
  simp only [cut]
  generalize (name.reverse.takeWhile fun c => decide (c ≠ CodePoint.scalar '.')).reverse = extension
  intro hsplit hdot
  cases hrest : name.reverse.dropWhile fun c => decide (c ≠ CodePoint.scalar '.') with
  | nil =>
    -- Without a dot all of the name would be the extension.
    rw [hrest, List.reverse_nil, List.nil_append] at hsplit
    simp [hsplit]
  | cons c rest =>
    rw [hrest] at hsplit hdot
    obtain rfl : c = .scalar '.' := by simpa using hdot
    have hlength : name.length - extension.length - 1 = rest.reverse.length := by
      rw [← hsplit]
      simp
      omega
    rw [hlength]
    split
    · exact List.append_nil _
    · rw [← hsplit, List.reverse_cons, List.append_assoc, List.take_left' rfl]
      simp

theorem stem_append_suffix (p : Path) : p.stem ++ p.suffix = p.name :=
  cut_append p.name

/-- A name is cut at its last dot, if something stands before it and after it. -/
theorem cut_concat {front extension : Text} (hfront : front ≠ []) (hextension : extension ≠ [])
    (hdot : CodePoint.scalar '.' ∉ extension) :
    cut (front ++ .scalar '.' :: extension) = (front, .scalar '.' :: extension) := by
  have hafter : (((front ++ .scalar '.' :: extension).reverse.takeWhile
      (· ≠ CodePoint.scalar '.')).reverse) = extension := by
    rw [List.reverse_append, List.reverse_cons, List.append_assoc, List.takeWhile_append_of_pos]
    · simp
    · intro c hc
      exact decide_eq_true fun h => hdot (h ▸ List.mem_reverse.mp hc)
  have hbefore : (front ++ .scalar '.' :: extension).length - extension.length - 1 =
      front.length := by
    rw [List.length_append, List.length_cons]
    omega
  rw [cut, hafter, hbefore, List.take_left' rfl, if_neg (by simp [hfront, hextension])]

theorem cut_fst_ne_nil {name : Text} (h : name ≠ []) : (cut name).1 ≠ [] := by
  rw [cut]
  split
  · exact h
  · next hcut => exact fun hfront => hcut (.inr hfront)

/-- A path that tells a format has a name, and it does not lead upward. -/
theorem name_of_format? {p : Path} {format : OutputFormat} (h : p.format? = some format) :
    p.name ≠ [] ∧ p.name ≠ up := by
  have hne {name : Text} (hname : OutputFormat.ofSuffix? (Text.toLower (cut name).2) = none) :
      p.name ≠ name := by
    rintro rfl
    rw [format?, formatSuffix, suffix, hname] at h
    exact absurd h (by simp)
  exact ⟨hne (by decide), hne (by decide)⟩

/-! ### The last part -/

@[simp] theorem name_child (p : Path) (part : Text) : (p.child part).name = part := by
  rw [name, child, List.getLast?_concat, Option.getD_some]

@[simp] theorem parent_child (p : Path) (part : Text) : (p.child part).parent = p := by
  rw [parent, child, List.dropLast_concat]

/-- A path with a name is its folder with the name after it. -/
theorem child_name (h : p.name ≠ []) : p.parent.child p.name = p := by
  cases hlast : p.parts.getLast? with
  | none => exact absurd (by rw [name, hlast]; rfl) h
  | some last =>
    obtain ⟨init, hinit⟩ := List.getLast?_eq_some_iff.mp hlast
    rw [name, hlast, Option.getD_some, child, parent, hinit, List.dropLast_concat, ← hinit]

theorem name_mem_parts (h : p.name ≠ []) : p.name ∈ p.parts := by
  rw [← congrArg parts (child_name h)]
  exact List.mem_concat_self

theorem child_inj : p.child part = q.child part' ↔ p = q ∧ part = part' := by
  constructor
  · intro h
    exact ⟨by rw [← parent_child p part, h, parent_child],
      by rw [← name_child p part, h, name_child]⟩
  · rintro ⟨rfl, rfl⟩
    rfl

/-! ### Normal forms -/

/-- Every part of a path says something, and it is one part. -/
def IsNormal (p : Path) : Prop :=
  ∀ part ∈ p.parts, part ≠ [] ∧ part ≠ "." ∧ CodePoint.scalar '/' ∉ part

theorem isNormal_ofText (t : Text) : (ofText t).IsNormal := by
  intro part hpart
  obtain ⟨hpart, hkept⟩ := List.mem_filter.mp hpart
  rw [Bool.and_eq_true, decide_eq_true_iff, decide_eq_true_iff] at hkept
  exact ⟨hkept.1, hkept.2, Text.notMem_of_mem_splitOn hpart⟩

theorem IsNormal.parent (h : p.IsNormal) : p.parent.IsNormal :=
  fun part hpart => h part (List.dropLast_subset p.parts hpart)

theorem IsNormal.child {part : Text} (h : p.IsNormal)
    (hpart : part ≠ [] ∧ part ≠ "." ∧ CodePoint.scalar '/' ∉ part) : (p.child part).IsNormal := by
  intro part' hpart'
  rcases List.mem_append.mp hpart' with hpart' | hpart'
  · exact h part' hpart'
  · exact List.mem_singleton.mp hpart' ▸ hpart

theorem takeWhile_join (h : p.IsNormal) :
    (Text.join "/" p.parts).takeWhile (· = CodePoint.scalar '/') = [] := by
  obtain ⟨root, parts⟩ := p
  cases parts with
  | nil => rfl
  | cons part parts =>
    obtain ⟨hpart, -, hslash⟩ := h part List.mem_cons_self
    obtain ⟨c, part, rfl⟩ := List.exists_cons_of_ne_nil hpart
    have hc : c ≠ .scalar '/' := fun hc => hslash (hc ▸ List.mem_cons_self)
    cases parts <;> simp [Text.join, List.intercalate, hc]

theorem filter_splitOn_join (h : p.IsNormal) :
    ((Text.splitOn '/' (Text.join "/" p.parts)).filter fun part => part ≠ [] && part ≠ ".") =
      p.parts := by
  rcases List.eq_nil_or_concat p.parts with hparts | ⟨init, last, hparts⟩
  · rw [hparts]
    rfl
  · rw [List.concat_eq_append] at hparts
    have hcut : Text.splitOn '/' (Text.join "/" p.parts) = p.parts := by
      rw [hparts]
      exact Text.splitOn_join fun part hpart => (h part (hparts ▸ hpart)).2.2
    rw [hcut, List.filter_eq_self]
    intro part hpart
    obtain ⟨hne, hdot, -⟩ := h part hpart
    rw [Bool.and_eq_true, decide_eq_true_iff, decide_eq_true_iff]
    exact ⟨hne, hdot⟩

/-- A path in normal form is read back from its root and its parts with slashes between them. -/
theorem IsNormal.ofText_append (h : p.IsNormal) :
    ofText (p.root.toText ++ Text.join "/" p.parts) = p := by
  have hslashes (root : PathRoot) (t : Text) :
      (root.toText ++ t).takeWhile (· = CodePoint.scalar '/') =
        root.toText ++ t.takeWhile (· = CodePoint.scalar '/') := by
    cases root <;> rfl
  -- The slashes of the root only cut off empty parts.
  have hparts (root : PathRoot) (t : Text) :
      ((Text.splitOn '/' (root.toText ++ t)).filter fun part => part ≠ [] && part ≠ ".") =
        (Text.splitOn '/' t).filter fun part => part ≠ [] && part ≠ "." := by
    cases root <;> rfl
  have hroot (root : PathRoot) : rootOf root.toText.length = root := by
    cases root <;> rfl
  rw [ofText, hslashes, takeWhile_join h, List.append_nil, hroot, hparts, filter_splitOn_join h]

/-- A path in normal form is read back from how it is written. -/
theorem IsNormal.ofText_toText (h : p.IsNormal) : ofText p.toText = p := by
  rw [toText]
  split
  · next hnil =>
    -- A dot says as little as an empty text.
    have hdot : ofText "." = ofText [] := rfl
    rw [hdot, ← hnil, h.ofText_append]
  · exact h.ofText_append

/-! ### Where paths lead to -/

/-- A path with a name leads into a folder. -/
theorem locate_eq {p : Path} (hname : p.name ≠ []) (hup : p.name ≠ up) (here : Location) :
    p.locate here = p.parent.locate here ++ [p.name] := by
  have hparts : p.parts = p.parts.dropLast ++ [p.name] := congrArg parts (child_name hname).symm
  have hstart : p.parent.start here = p.start here := rfl
  rw [locate, hparts, List.foldl_append, List.foldl_cons, List.foldl_nil, step, if_neg hup, locate,
    hstart, parent]

theorem locate_ne_nil {p : Path} {format : OutputFormat} (h : p.format? = some format)
    (here : Location) : p.locate here ≠ [] := by
  obtain ⟨hname, hup⟩ := name_of_format? h
  rw [locate_eq hname hup]
  exact List.concat_ne_nil _ _

/-- No part leads upward where a path leads to. -/
theorem locate_plain (p : Path) {here : Location} (h : here.IsPlain) : (p.locate here).IsPlain := by
  have hstep (parts : List Text) (l : Location) (hl : l.IsPlain) :
      Location.IsPlain (parts.foldl step l) := by
    induction parts generalizing l with
    | nil => exact hl
    | cons part parts ih =>
      refine ih (step l part) ?_
      rw [step]
      split
      · exact fun hup => hl (List.dropLast_subset l hup)
      · next hpart => simpa [Location.IsPlain] using ⟨hl, Ne.symm hpart⟩
  refine hstep p.parts _ ?_
  rw [start]
  split
  · exact h
  · exact List.not_mem_nil

/-- Where a path leads to are parts of it and of where it starts. -/
theorem mem_locate {p : Path} {here : Location} {part : Text} (h : part ∈ p.locate here) :
    part ∈ here ∨ part ∈ p.parts := by
  have hstep (parts : List Text) (l : Location) (hl : part ∈ parts.foldl step l) :
      part ∈ l ∨ part ∈ parts := by
    induction parts generalizing l with
    | nil => exact .inl hl
    | cons first parts ih =>
      rcases ih _ hl with hl | hl
      · rw [step] at hl
        split at hl
        · exact .inl (List.dropLast_subset l hl)
        · rcases List.mem_append.mp hl with hl | hl
          · exact .inl hl
          · exact .inr (List.mem_cons.mpr (.inl (List.mem_singleton.mp hl)))
      · exact .inr (List.mem_cons_of_mem first hl)
  refine (hstep p.parts _ h).imp_left fun hstart => ?_
  rw [start] at hstart
  split at hstart
  · exact hstart
  · exact absurd hstart List.not_mem_nil

/-! ### Scripts beside files -/

/-- The script beside a file. -/
theorem scriptPath?_concat (folder : Location) {name : Text} (hname : name ≠ []) :
    (ofLocation (folder ++ [name])).scriptPath? =
      some (ofLocation (folder ++ [(cut name).1 ++ OutputFormat.script.suffix])) := by
  have hchild : ofLocation (folder ++ [name]) = (ofLocation folder).child name := rfl
  rw [hchild, scriptPath?, withSuffix?, name_child, if_neg hname, parent_child, stem, name_child]
  rfl

/-- Where the script beside a file is. -/
def scriptLocation (p : Path) (here : Location) : Location :=
  p.parent.locate here ++ [p.stem ++ OutputFormat.script.suffix]

theorem scriptPath?_locate {p : Path} {format : OutputFormat} (h : p.format? = some format)
    (here : Location) :
    (ofLocation (p.locate here)).scriptPath? = some (ofLocation (p.scriptLocation here)) := by
  obtain ⟨hname, hup⟩ := name_of_format? h
  rw [locate_eq hname hup, scriptPath?_concat _ hname, scriptLocation, stem]

/-- An image is not its own script. -/
theorem scriptLocation_ne {p : Path} {format : OutputFormat} (h : p.format? = some format)
    (hformat : format ≠ .script) (here : Location) : p.scriptLocation here ≠ p.locate here := by
  intro heq
  obtain ⟨hname, hup⟩ := name_of_format? h
  rw [locate_eq hname hup, scriptLocation] at heq
  have hcut : p.stem ++ OutputFormat.script.suffix = p.stem ++ p.suffix :=
    (List.singleton_inj.mp (List.append_cancel_left heq)).trans (stem_append_suffix p).symm
  have hscript : p.format? = some .script := by
    rw [format?, formatSuffix, ← List.append_cancel_left hcut]
    decide
  rw [h] at hscript
  exact hformat (Option.some.inj hscript)

end Path

end JqFlow
