import JqFlow.Text.Basic

/-!
# Cutting joined texts

Texts that do not hold a code point can be joined with it between them, and cut apart again.

## Main statements

- `Text.join_concat`: the last of several texts that are joined
- `Text.splitOn_flatMap`: texts that are each followed by a code point, and one more
- `Text.splitOn_join`: joined texts are cut apart where they were joined
- `Text.notMem_of_mem_splitOn`: the parts do not hold what they are cut at
-/

namespace JqFlow
namespace Text

theorem join_concat (separator : Text) (ts : List Text) (t : Text) :
    join separator (ts ++ [t]) = ts.flatMap (fun u => u ++ separator) ++ t := by
  induction ts with
  | nil => simp [join, List.intercalate]
  | cons u ts ih =>
    have hstep : join separator (u :: (ts ++ [t])) =
        u ++ separator ++ join separator (ts ++ [t]) := by
      cases ts <;> simp [join, List.intercalate]
    rw [List.cons_append, hstep, ih, List.flatMap_cons, List.append_assoc (u ++ separator)]

theorem splitOn_cut {c : CodePoint} {s : Text} (h : c ∉ s) (t : Text) :
    splitOn c (s ++ c :: t) = s :: splitOn c t := by
  induction s with
  | nil => simp [splitOn]
  | cons a s ih =>
    simp only [List.mem_cons, not_or] at h
    simp [splitOn, Ne.symm h.1, ih h.2]

theorem splitOn_eq_singleton {c : CodePoint} {s : Text} (h : c ∉ s) : splitOn c s = [s] := by
  induction s with
  | nil => rfl
  | cons a s ih =>
    simp only [List.mem_cons, not_or] at h
    simp [splitOn, Ne.symm h.1, ih h.2]

/-- Texts that are each followed by a code point that they do not hold, and a text after them. -/
theorem splitOn_flatMap {c : CodePoint} {ts : List Text} (h : ∀ t ∈ ts, c ∉ t) {t : Text}
    (ht : c ∉ t) : splitOn c (ts.flatMap (fun u => u ++ [c]) ++ t) = ts ++ [t] := by
  induction ts with
  | nil => exact splitOn_eq_singleton ht
  | cons s ts ih =>
    rw [List.flatMap_cons, List.append_assoc, List.append_assoc, List.singleton_append,
      splitOn_cut (h s List.mem_cons_self), ih fun u hu => h u (List.mem_cons_of_mem _ hu)]
    rfl

/-- Joined texts are cut apart where they were joined. -/
theorem splitOn_join {c : CodePoint} {ts : List Text} {t : Text} (h : ∀ u ∈ ts ++ [t], c ∉ u) :
    splitOn c (join [c] (ts ++ [t])) = ts ++ [t] := by
  rw [join_concat]
  exact splitOn_flatMap (fun u hu => h u (List.mem_append_left _ hu))
    (h t (List.mem_append_right _ List.mem_cons_self))

/-- The parts do not hold what they are cut at. -/
theorem notMem_of_mem_splitOn {c : CodePoint} {s t : Text} (h : s ∈ splitOn c t) : c ∉ s := by
  induction t generalizing s with
  | nil =>
    rw [List.mem_singleton.mp h]
    exact List.not_mem_nil
  | cons a t ih =>
    rw [splitOn] at h
    split at h
    · rcases List.mem_cons.mp h with rfl | h
      · exact List.not_mem_nil
      · exact ih h
    · next ha =>
      cases hparts : splitOn c t with
      | nil =>
        rw [hparts] at h
        rw [List.mem_singleton.mp h, List.mem_singleton]
        exact Ne.symm ha
      | cons part parts =>
        rw [hparts] at h ih
        rcases List.mem_cons.mp h with rfl | h
        · rw [List.mem_cons, not_or]
          exact ⟨Ne.symm ha, ih List.mem_cons_self⟩
        · exact ih (List.mem_cons_of_mem part h)

end Text
end JqFlow
