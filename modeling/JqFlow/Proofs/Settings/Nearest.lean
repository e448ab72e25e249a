import JqFlow.Proofs.Files.Tree
import JqFlow.Settings

/-!
# The nearest settings file

The search for a settings file goes from a folder up to the top. Each step makes the location shorter,
so the search ends: at the first folder in which there is such a file, or at the top. What it finds is
the nearest, and everything else in the tree plays no part: files beside the way, and settings files
above the one that is found.

## Main definitions

- `FileTree.HasSettings`: there is a settings file in a folder
- `FileTree.IsNearest`: the nearest folder on the way that has one
- `FileTree.Unseen`: the locations that play no part in the settings for a folder

## Main statements

- `FileTree.settingsFile?_eq_some_iff`, `FileTree.settingsFile?_eq_none_iff`: what the search finds
- `FileTree.settings_congr`: trees that differ only where nothing is seen have the same settings
- `FileTree.nearest_settings`: both, wherever the search starts
-/

namespace JqFlow
namespace FileTree

variable {t t' : FileTree} {here l folder file : Location} {part : Text}

/-! ### The search -/

/-- There is a settings file in a folder. A folder with its name is none. -/
def HasSettings (t : FileTree) (folder : Location) : Prop :=
  ∃ content, t.get? (folder ++ [Settings.fileName]) = some (.file content)

/-- Of the folders on the way from `l` up to the top, both included, this is the nearest that has a
settings file. -/
structure IsNearest (t : FileTree) (l folder : Location) : Prop where
  onWay : folder <+: l
  hasSettings : t.HasSettings folder
  not_nearer : ∀ nearer, nearer <+: l → folder.length < nearer.length → ¬ t.HasSettings nearer

theorem isFile_iff : t.isFile l = true ↔ ∃ content, t.get? l = some (.file content) := by
  rw [isFile]
  cases t.get? l with
  | none => simp
  | some item => cases item <;> simp

/-- A folder that has a settings file ends the search. -/
theorem HasSettings.settingsFile? (h : t.HasSettings l) :
    t.settingsFile? l = some (l ++ [Settings.fileName]) := by
  rw [FileTree.settingsFile?, if_pos (isFile_iff.mpr h)]

theorem HasSettings.isNearest_iff (h : t.HasSettings l) : t.IsNearest l folder ↔ folder = l := by
  constructor
  · intro hnearest
    have hlength : ¬ folder.length < l.length := fun hlt =>
      hnearest.not_nearer l (List.prefix_refl l) hlt h
    exact hnearest.onWay.eq_of_length_le (Nat.not_lt.mp hlength)
  · rintro rfl
    refine ⟨List.prefix_refl _, h, fun nearer hway hlength => ?_⟩
    exact absurd hway.length_le (Nat.not_le.mpr hlength)

/-- Around the top there is nothing to be searched. -/
theorem settingsFile?_nil (h : ¬ t.HasSettings []) : t.settingsFile? [] = none := by
  rw [settingsFile?, if_neg (mt isFile_iff.mp h)]
  rfl

/-- A folder without a settings file sends the search to the folder around it. -/
theorem settingsFile?_concat (h : ¬ t.HasSettings (l ++ [part])) :
    t.settingsFile? (l ++ [part]) = t.settingsFile? l := by
  have hdrop : l ≠ l ++ [part] := fun heq => by simpa using congrArg List.length heq
  rw [settingsFile?, if_neg (mt isFile_iff.mp h), List.dropLast_concat, if_neg hdrop]

/-- A folder without a settings file can be left out of the way. -/
theorem isNearest_concat_iff (h : ¬ t.HasSettings (l ++ [part])) :
    t.IsNearest (l ++ [part]) folder ↔ t.IsNearest l folder := by
  constructor
  · intro hnearest
    have hway : folder <+: l := by
      rcases List.prefix_concat_iff.mp hnearest.onWay with rfl | hway
      · exact absurd hnearest.hasSettings h
      · exact hway
    refine ⟨hway, hnearest.hasSettings, fun nearer hnearer => ?_⟩
    exact hnearest.not_nearer nearer (hnearer.trans (List.prefix_append l [part]))
  · intro hnearest
    refine ⟨hnearest.onWay.trans (List.prefix_append l [part]), hnearest.hasSettings, ?_⟩
    intro nearer hway hlength
    rcases List.prefix_concat_iff.mp hway with rfl | hway
    · exact h
    · exact hnearest.not_nearer nearer hway hlength

/-- The search finds the settings file of the nearest folder that has one. -/
theorem settingsFile?_eq_some_iff :
    t.settingsFile? l = some file ↔
      ∃ folder, t.IsNearest l folder ∧ file = folder ++ [Settings.fileName] := by
  induction l using List.reverseRecOn with
  | nil =>
    by_cases h : t.HasSettings []
    · simp only [h.settingsFile?, h.isNearest_iff, Option.some.injEq, exists_eq_left, eq_comm]
    · rw [settingsFile?_nil h]
      simp only [reduceCtorEq, false_iff]
      rintro ⟨folder, hnearest, -⟩
      exact h (List.prefix_nil.mp hnearest.onWay ▸ hnearest.hasSettings)
  | append_singleton l part ih =>
    by_cases h : t.HasSettings (l ++ [part])
    · simp only [h.settingsFile?, h.isNearest_iff, Option.some.injEq, exists_eq_left, eq_comm]
    · simp only [settingsFile?_concat h, isNearest_concat_iff h, ih]

/-- The search finds nothing exactly if no folder on the way has a settings file. -/
theorem settingsFile?_eq_none_iff :
    t.settingsFile? l = none ↔ ∀ folder, folder <+: l → ¬ t.HasSettings folder := by
  constructor
  · intro hnone folder hway hhas
    induction l using List.reverseRecOn with
    | nil =>
      rw [List.prefix_nil.mp hway] at hhas
      exact absurd hnone (by simp [hhas.settingsFile?])
    | append_singleton l part ih =>
      have h : ¬ t.HasSettings (l ++ [part]) := fun h => by simp [h.settingsFile?] at hnone
      rcases List.prefix_concat_iff.mp hway with rfl | hway
      · exact h hhas
      · exact ih (settingsFile?_concat h ▸ hnone) hway
  · intro hnone
    refine Option.eq_none_iff_forall_ne_some.mpr fun file hfile => ?_
    obtain ⟨folder, hnearest, -⟩ := settingsFile?_eq_some_iff.mp hfile
    exact hnone folder hnearest.onWay hnearest.hasSettings

/-! ### The settings for a folder -/

theorem settings_of_isNearest (h : t.IsNearest here folder) {content : Bytes}
    (hcontent : t.get? (folder ++ [Settings.fileName]) = some (.file content)) :
    t.settings here = Settings.ofBytes (folder ++ [Settings.fileName]) content := by
  have hfile : t.settingsFileFrom? here none = some (folder ++ [Settings.fileName]) :=
    settingsFile?_eq_some_iff.mpr ⟨folder, h, rfl⟩
  simp only [settings, hfile, hcontent]

theorem settings_of_none (h : ∀ folder, folder <+: here → ¬ t.HasSettings folder) :
    t.settings here = .ok {} := by
  have hfile : t.settingsFileFrom? here none = none := settingsFile?_eq_none_iff.mpr h
  simp only [settings, hfile]

/-- What is at a location plays no part in the settings for `here`: no folder on the way would have it
as its settings file, or only one above the nearest that has one. -/
def Unseen (t : FileTree) (here l : Location) : Prop :=
  (∀ folder, folder <+: here → l ≠ folder ++ [Settings.fileName]) ∨
    ∃ folder above, t.IsNearest here folder ∧ above <+: folder ∧ above ≠ folder ∧
      l = above ++ [Settings.fileName]

/-- What is seen of a tree are the settings files up to the nearest. -/
theorem get?_eq_of_unseen (h : ∀ l, t'.get? l ≠ t.get? l → t.Unseen here l)
    (hway : folder <+: here)
    (hnearest : ∀ nearest, t.IsNearest here nearest → nearest.length ≤ folder.length) :
    t'.get? (folder ++ [Settings.fileName]) = t.get? (folder ++ [Settings.fileName]) := by
  by_contra hdiffers
  rcases h _ hdiffers with hbeside | ⟨nearest, above, hn, habove, hne, heq⟩
  · exact hbeside folder hway rfl
  · obtain rfl := List.append_cancel_right heq
    have hlength := hnearest nearest hn
    exact hne (habove.eq_of_length_le hlength)

theorem hasSettings_congr (h : ∀ l, t'.get? l ≠ t.get? l → t.Unseen here l) (hway : folder <+: here)
    (hnearest : ∀ nearest, t.IsNearest here nearest → nearest.length ≤ folder.length) :
    t'.HasSettings folder ↔ t.HasSettings folder := by
  rw [HasSettings, HasSettings, get?_eq_of_unseen h hway hnearest]

/-- Trees that differ only where nothing is seen have the same settings. -/
theorem settings_congr (h : ∀ l, t'.get? l ≠ t.get? l → t.Unseen here l) :
    t'.settings here = t.settings here := by
  cases hfile : t.settingsFile? here with
  | none =>
    have hnone := settingsFile?_eq_none_iff.mp hfile
    have hnone' (folder : Location) (hway : folder <+: here) : ¬ t'.HasSettings folder := by
      rw [hasSettings_congr h hway fun n hn => absurd hn.hasSettings (hnone n hn.onWay)]
      exact hnone folder hway
    rw [settings_of_none hnone, settings_of_none hnone']
  | some file =>
    obtain ⟨folder, hnearest, -⟩ := settingsFile?_eq_some_iff.mp hfile
    have hle (n : Location) (hn : t.IsNearest here n) : n.length ≤ folder.length :=
      Nat.not_lt.mp fun hlength => hnearest.not_nearer n hn.onWay hlength hn.hasSettings
    have hnearest' : t'.IsNearest here folder := by
      refine ⟨hnearest.onWay, (hasSettings_congr h hnearest.onWay hle).mpr hnearest.hasSettings, ?_⟩
      intro nearer hway hlength
      rw [hasSettings_congr h hway fun n hn => Nat.le_trans (hle n hn) (Nat.le_of_lt hlength)]
      exact hnearest.not_nearer nearer hway hlength
    obtain ⟨content, hcontent⟩ := hnearest.hasSettings
    have hcontent' := (get?_eq_of_unseen h hnearest.onWay hle).trans hcontent
    rw [settings_of_isNearest hnearest hcontent, settings_of_isNearest hnearest' hcontent']

/-- One change where nothing is seen keeps the settings. -/
theorem settings_eq_of_unseen (hunseen : t.Unseen here l)
    (h : ∀ {l'}, l' ≠ l → t'.get? l' = t.get? l') : t'.settings here = t.settings here := by
  refine settings_congr fun l' hdiffers => ?_
  by_cases heq : l' = l
  · rwa [heq]
  · exact absurd (h heq) hdiffers

/-! ### Wherever the search starts -/

/-- Where a search starts: where a path leads to, or without a path the folder `here`. -/
def searchStart (here : Location) : Option Path → Location
  | none => here
  | some p => p.locate here

/-- From wherever it starts, the search finds the settings file of the nearest folder on the way to the
top that has one, and nothing exactly if there is none. So the settings for a folder stay as they are
when a file is added or removed that is not on this way, or that is above the one that was found, and
when any number of such changes are made. -/
theorem nearest_settings (t : FileTree) (here : Location) (start : Option Path) :
    (∀ file, t.settingsFileFrom? here start = some file ↔
      ∃ folder, t.IsNearest (searchStart here start) folder ∧
        file = folder ++ [Settings.fileName]) ∧
    (t.settingsFileFrom? here start = none ↔
      ∀ folder, folder <+: searchStart here start → ¬ t.HasSettings folder) ∧
    (∀ l, t.Unseen here l →
      (∀ content, (t.put l (.file content)).settings here = t.settings here) ∧
      (t.erase l).settings here = t.settings here) ∧
    ∀ t' : FileTree, (∀ l, t'.get? l ≠ t.get? l → t.Unseen here l) →
      t'.settings here = t.settings here := by
  have hfrom : t.settingsFileFrom? here start = t.settingsFile? (searchStart here start) := by
    cases start <;> rfl
  rw [hfrom]
  refine ⟨fun file => settingsFile?_eq_some_iff, settingsFile?_eq_none_iff, ?_, ?_⟩
  · intro l hunseen
    exact ⟨fun content => settings_eq_of_unseen hunseen get?_put_of_ne,
      settings_eq_of_unseen hunseen get?_erase_of_ne⟩
  · exact fun t' => settings_congr

/-- A folder `a` with settings, in a folder with settings. In `a/b` a folder has the name of a settings
file. -/
def nested : FileTree where
  entries :=
    [(["pyproject.toml"], .file []), (["a"], .folder), (["a", "pyproject.toml"], .file []),
      (["a", "b"], .folder), (["a", "b", "pyproject.toml"], .folder)]

theorem nearest_settings_nested :
    nested.settingsFileFrom? ["a", "b"] none = some (["a", "pyproject.toml"] : Location) ∧
    nested.Unseen ["a", "b"] [Settings.fileName] ∧
    (nested.erase [Settings.fileName]).settings ["a", "b"] = nested.settings ["a", "b"] := by
  have hnearest : nested.IsNearest ["a", "b"] ["a"] := by
    refine ⟨⟨["b"], rfl⟩, ⟨[], rfl⟩, fun nearer hway hlength ⟨content, hcontent⟩ => ?_⟩
    obtain rfl := hway.eq_of_length_le hlength
    cases hcontent
  have hunseen : nested.Unseen ["a", "b"] [Settings.fileName] :=
    .inr ⟨["a"], [], hnearest, List.nil_prefix, by simp, rfl⟩
  obtain ⟨hfound, -, hchange, -⟩ := nearest_settings nested ["a", "b"] none
  exact ⟨(hfound _).mpr ⟨["a"], hnearest, rfl⟩, hunseen, (hchange _ hunseen).2⟩

end FileTree
end JqFlow
