import JqFlow.Files.Tree
import Mathlib.Data.List.Induction

/-!
# What file operations do to a tree

## Main definitions

- `FileTree.IsClosed`: there are folders around everything in a tree
- `FileTree.KeptOrMade`: what is kept when folders are made
- `Location.IsPlain`: no part of a location leads upward

## Main statements

- `FileTree.get?_put_self`, `FileTree.get?_put_of_ne`, `FileTree.get?_erase_self`,
  `FileTree.get?_erase_of_ne`: what is where after a change
- `FileTree.get?_fresh`: a fresh name is the name of nothing
- `FileTree.IsClosed.makeFolders`: a folder that is there need not be made
- `FileTree.makeFoldersFrom_keptOrMade`: folders are made where nothing is
- `FileTree.followFrom_makeFoldersFrom`: the way through folders that were made can be followed
-/

namespace JqFlow

/-- No part of a location leads upward. -/
def Location.IsPlain (l : Location) : Prop :=
  Path.up ∉ l

instance (l : Location) : Decidable l.IsPlain :=
  inferInstanceAs (Decidable (Path.up ∉ l))

/-- A plain path leads to its parts. -/
theorem Path.foldl_step {here l : Location} (h : l.IsPlain) :
    l.foldl Path.step here = here ++ l := by
  induction l generalizing here with
  | nil => rw [List.foldl_nil, List.append_nil]
  | cons part l ih =>
    have hpart : part ≠ Path.up := fun hup => h (hup ▸ List.mem_cons_self)
    rw [List.foldl_cons, ih fun hup => h (List.mem_cons_of_mem part hup), Path.step, if_neg hpart,
      List.append_assoc]
    rfl

theorem Path.locate_ofLocation {l : Location} (h : l.IsPlain) (here : Location) :
    (Path.ofLocation l).locate here = l :=
  Path.foldl_step h

namespace FileTree

variable {t : FileTree} {l l' : Location} {item : FileItem}

/-! ### Looking up -/

theorem lookup_filter_of_ne (entries : List (Location × FileItem)) (h : l' ≠ l) :
    (entries.filter fun e => e.1 ≠ l).lookup l' = entries.lookup l' := by
  induction entries with
  | nil => rfl
  | cons e entries ih =>
    obtain ⟨l₁, item₁⟩ := e
    by_cases h₁ : l₁ = l
    · subst h₁
      rw [List.filter_cons_of_neg (by simp), ih, List.lookup_cons, beq_false_of_ne h]
    · rw [List.filter_cons_of_pos (by simpa using h₁), List.lookup_cons, List.lookup_cons, ih]

@[simp] theorem get?_nil (t : FileTree) : t.get? [] = some .folder := rfl

theorem get?_erase_of_ne (h : l' ≠ l) : (t.erase l).get? l' = t.get? l' := by
  rw [get?, get?, erase, lookup_filter_of_ne t.entries h]

theorem get?_put_self (h : l ≠ []) : (t.put l item).get? l = some item := by
  rw [get?, if_neg h, put, List.lookup_cons_self]

theorem get?_put_of_ne (h : l' ≠ l) : (t.put l item).get? l' = t.get? l' := by
  rw [← get?_erase_of_ne (t := t) h]
  show (if l' = [] then _ else List.lookup l' ((l, item) :: (t.erase l).entries)) = _
  rw [List.lookup_cons, beq_false_of_ne h, get?]

/-- A text that has bytes can be written wherever no folder is. -/
theorem writeTextAt_eq (h : t.get? l ≠ some .folder) {text : Text} {content : Bytes}
    (hcontent : Utf8.encode? text = some content) :
    t.writeTextAt l text = (none, t.put l (.file content)) := by
  rw [writeTextAt, hcontent]
  cases hitem : t.get? l with
  | none => rfl
  | some item =>
    cases item with
    | file => rfl
    | folder => exact absurd hitem h

theorem writeTextAt_unencodable (h : t.get? l ≠ some .folder) {text : Text}
    (hcontent : Utf8.encode? text = none) :
    t.writeTextAt l text = (some .unencodable, t.put l (.file [])) := by
  rw [writeTextAt, hcontent]
  cases hitem : t.get? l with
  | none => rfl
  | some item =>
    cases item with
    | file => rfl
    | folder => exact absurd hitem h

/-- Writing to a file leaves everything else as it was. -/
theorem get?_writeTextAt_of_ne (t : FileTree) (h : l' ≠ l) (text : Text) :
    (t.writeTextAt l text).2.get? l' = t.get? l' := by
  rw [writeTextAt]
  split
  · rfl
  · cases Utf8.encode? text <;> exact get?_put_of_ne h

theorem readText_eq {content : Bytes} (h : t.get? l = some (.file content)) :
    t.readText l = textOf content := by
  rw [readText, h]

theorem get?_erase_self (h : l ≠ []) : (t.erase l).get? l = none := by
  rw [get?, if_neg h, List.lookup_eq_none_iff]
  intro e he
  have hne : e.1 ≠ l := by simpa using (List.mem_filter.mp he).2
  exact bne_iff_ne.mpr (Ne.symm hne)

/-- Where nothing was before a change, erasing takes the change back. -/
theorem get?_erase_of_agrees {t' : FileTree} (hnone : t.get? l = none)
    (h : l' ≠ l → t'.get? l' = t.get? l') : (t'.erase l).get? l' = t.get? l' := by
  by_cases heq : l' = l
  · subst heq
    have hne : l' ≠ [] := by
      rintro rfl
      simp at hnone
    rw [get?_erase_self hne, hnone]
  · exact (get?_erase_of_ne heq).trans (h heq)

/-! ### Fresh names -/

theorem length_le_longest {entries : List (Location × FileItem)} {e : Location × FileItem}
    (h : e ∈ entries) :
    (e.1.getLast?.getD []).length ≤
      entries.foldr (fun e n => max (e.1.getLast?.getD []).length n) 0 := by
  induction entries with
  | nil => exact absurd h List.not_mem_nil
  | cons e₁ entries ih =>
    rw [List.foldr_cons]
    rcases List.mem_cons.mp h with rfl | h
    · exact Nat.le_max_left _ _
    · exact Nat.le_trans (ih h) (Nat.le_max_right _ _)

/-- A fresh name is the name of nothing. -/
theorem get?_fresh (t : FileTree) (l : Location) (suffix : Text) :
    t.get? (l ++ [t.fresh suffix]) = none := by
  rw [get?, if_neg (by simp), List.lookup_eq_none_iff]
  intro e he
  have hlength := length_le_longest he
  refine bne_iff_ne.mpr fun heq => ?_
  rw [← heq] at hlength
  simp [fresh] at hlength
  omega

/-- A fresh name is longer than the name of everything. -/
theorem length_lt_fresh (t : FileTree) (l : Location) (name : Text) (item : FileItem)
    (suffix : Text) :
    name.length + suffix.length < ((t.put (l ++ [name]) item).fresh suffix).length := by
  have hmem : (l ++ [name], item) ∈ (t.put (l ++ [name]) item).entries := List.mem_cons_self
  have hlength := length_le_longest hmem
  rw [List.getLast?_concat, Option.getD_some] at hlength
  rw [fresh, List.length_append, List.length_replicate]
  omega

theorem fresh_ne_up (t : FileTree) (suffix : Text) : t.fresh suffix ≠ Path.up := by
  rw [fresh, List.replicate_succ, List.cons_append]
  intro h
  exact absurd (List.cons.inj h).1 (by decide)

/-! ### Folders -/

/-- There are folders around everything in a tree. -/
def IsClosed (t : FileTree) : Prop :=
  ∀ l item, t.get? l = some item → t.get? l.dropLast = some .folder

theorem isClosed_empty : IsClosed ⟨[]⟩ := by
  intro l item h
  by_cases hl : l = []
  · rw [hl]
    rfl
  · rw [get?, if_neg hl] at h
    exact absurd h (by simp)

/-- What is in a place where no folder is, is nothing. -/
theorem IsClosed.get?_inside (h : t.IsClosed) (hl : t.get? l ≠ some .folder) (part : Text) :
    t.get? (l ++ [part]) = none := by
  cases hitem : t.get? (l ++ [part]) with
  | none => rfl
  | some item =>
    have := h _ _ hitem
    rw [List.dropLast_concat] at this
    exact absurd this hl

theorem IsClosed.put_folder (h : t.IsClosed) (hl : t.get? l.dropLast = some .folder) :
    (t.put l .folder).IsClosed := by
  have hfolder (l' : Location) (hl' : t.get? l' = some .folder) :
      (t.put l .folder).get? l' = some .folder := by
    by_cases heq : l' = l
    · subst heq
      by_cases hnil : l' = []
      · rw [hnil, get?_nil]
      · exact get?_put_self hnil
    · rw [get?_put_of_ne heq, hl']
  intro l' item hitem
  refine hfolder l'.dropLast ?_
  by_cases heq : l' = l
  · rwa [heq]
  · rw [get?_put_of_ne heq] at hitem
    exact h l' item hitem

theorem IsClosed.of_append (h : t.IsClosed) (rest : Location)
    (hl : t.get? (l ++ rest) = some .folder) : t.get? l = some .folder := by
  induction rest using List.reverseRecOn with
  | nil => rwa [List.append_nil] at hl
  | append_singleton rest part ih =>
    refine ih ?_
    have := h _ _ hl
    rwa [← List.append_assoc, List.dropLast_concat] at this

theorem IsClosed.makeFoldersFrom (h : t.IsClosed) (here : Location) {parts : Location}
    (hplain : parts.IsPlain) (hfolder : t.get? (here ++ parts) = some .folder) (made : Bool) :
    t.makeFoldersFrom here made parts = (none, t) := by
  induction parts generalizing here with
  | nil => rfl
  | cons part parts ih =>
    have hpart : part ≠ Path.up := fun hup => hplain (hup ▸ List.mem_cons_self)
    have hrest : t.get? (here ++ [part] ++ parts) = some .folder := by
      rwa [List.append_assoc, List.singleton_append]
    rw [FileTree.makeFoldersFrom, Path.step, if_neg hpart, h.of_append parts hrest]
    exact ih _ (fun hup => hplain (List.mem_cons_of_mem part hup)) hrest

/-- A folder that is there need not be made. -/
theorem IsClosed.makeFolders (h : t.IsClosed) (hplain : l.IsPlain)
    (hfolder : t.get? l = some .folder) (here : Location) :
    t.makeFolders here (Path.ofLocation l) = (none, t) :=
  h.makeFoldersFrom [] hplain hfolder false

/-- Making folders leaves everything as it was, but for folders where nothing was. -/
theorem get?_makeFoldersFrom (t : FileTree) (here : Location) (made : Bool) (parts : List Text)
    (l : Location) :
    (t.makeFoldersFrom here made parts).2.get? l = t.get? l ∨
      t.get? l = none ∧ (t.makeFoldersFrom here made parts).2.get? l = some .folder := by
  induction parts generalizing t here made with
  | nil => exact .inl rfl
  | cons part parts ih =>
    rw [FileTree.makeFoldersFrom]
    cases hitem : t.get? (Path.step here part) with
    | some item =>
      cases item with
      | folder => exact ih t _ made
      | file content => exact .inl rfl
    | none =>
      have hrest := ih (t.put (Path.step here part) .folder) (Path.step here part) true
      by_cases heq : l = Path.step here part
      · subst heq
        have hnil : Path.step here part ≠ [] := fun hnil => by simp [hnil] at hitem
        rw [get?_put_self hnil] at hrest
        exact .inr ⟨hitem, hrest.elim id fun hnone => absurd hnone.1 (by simp)⟩
      · rwa [get?_put_of_ne heq] at hrest

/-- Folders that are there stay. -/
theorem get?_makeFoldersFrom_folder {here : Location} {made : Bool} {parts : List Text}
    (h : t.get? l = some .folder) :
    (t.makeFoldersFrom here made parts).2.get? l = some .folder :=
  (t.get?_makeFoldersFrom here made parts l).elim (fun hsame => hsame.trans h) And.right

/-- Once folders are made, the way through them can be followed, and it ends in a folder. -/
theorem followFrom_makeFoldersFrom {t' : FileTree} {here : Location} {made : Bool}
    {parts : List Text} (hmake : t.makeFoldersFrom here made parts = (none, t'))
    (hhere : t.get? here = some .folder) (rest : List Text) :
    t'.get? (parts.foldl Path.step here) = some .folder ∧
      t'.followFrom here (parts ++ rest) = t'.followFrom (parts.foldl Path.step here) rest := by
  induction parts generalizing t here made with
  | nil =>
    obtain rfl := (Prod.ext_iff.mp hmake).2
    exact ⟨hhere, rfl⟩
  | cons part parts ih =>
    have hstart : t'.get? here = some .folder := by
      have hkept : (t.makeFoldersFrom here made (part :: parts)).2.get? here = some .folder :=
        get?_makeFoldersFrom_folder hhere
      rwa [hmake] at hkept
    rw [List.cons_append, followFrom, hstart, List.foldl_cons]
    rw [FileTree.makeFoldersFrom] at hmake
    cases hitem : t.get? (Path.step here part) with
    | some item =>
      rw [hitem] at hmake
      cases item with
      | folder => exact ih hmake hitem
      | file content => exact absurd (Prod.ext_iff.mp hmake).1 (by simp)
    | none =>
      rw [hitem] at hmake
      have hnil : Path.step here part ≠ [] := fun hnil => by simp [hnil] at hitem
      exact ih hmake (get?_put_self hnil)

/-- What is at a location after folders were made on the way to one: what was there before, or one
of these folders, where nothing was. -/
def KeptOrMade (before after : FileTree) (folder l : Location) : Prop :=
  after.get? l = before.get? l ∨
    before.get? l = none ∧ after.get? l = some .folder ∧ l <+: folder

/-- What is in the last folder is kept. -/
theorem KeptOrMade.get?_concat {t' : FileTree} {part : Text} (h : KeptOrMade t t' l (l ++ [part])) :
    t'.get? (l ++ [part]) = t.get? (l ++ [part]) := by
  rcases h with h | ⟨_, _, hway⟩
  · exact h
  · have hlength := hway.length_le
    rw [List.length_append, List.length_singleton] at hlength
    omega

/-- Folders are made where nothing is, and only on the way. -/
theorem makeFoldersFrom_keptOrMade (t : FileTree) (here : Location) {parts : Location}
    (hplain : parts.IsPlain) (made : Bool) (l : Location) :
    KeptOrMade t (t.makeFoldersFrom here made parts).2 (here ++ parts) l := by
  induction parts generalizing t here made with
  | nil => exact .inl rfl
  | cons part parts ih =>
    have hpart : part ≠ Path.up := fun hup => hplain (hup ▸ List.mem_cons_self)
    have hrest : Location.IsPlain parts := fun hup => hplain (List.mem_cons_of_mem part hup)
    have hlocation : here ++ part :: parts = here ++ [part] ++ parts := by simp
    rw [FileTree.makeFoldersFrom, Path.step, if_neg hpart, hlocation]
    cases hitem : t.get? (here ++ [part]) with
    | some item =>
      cases item with
      | folder => exact ih t _ hrest made
      | file content => exact .inl rfl
    | none =>
      rcases ih (t.put (here ++ [part]) .folder) (here ++ [part]) hrest true with
        hkept | ⟨hnone, hfolder, hway⟩
      · by_cases heq : l = here ++ [part]
        · subst heq
          rw [get?_put_self (by simp)] at hkept
          exact .inr ⟨hitem, hkept, List.prefix_append _ _⟩
        · exact .inl (hkept.trans (get?_put_of_ne heq))
      · by_cases heq : l = here ++ [part]
        · subst heq
          exact .inr ⟨hitem, hfolder, hway⟩
        · rw [get?_put_of_ne heq] at hnone
          exact .inr ⟨hnone, hfolder, hway⟩

end FileTree

end JqFlow
