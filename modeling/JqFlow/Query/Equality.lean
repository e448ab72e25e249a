import JqFlow.Query.Basic

/-!
# Equality of queries

`Query.same` decides the equality of queries.

## Main statements

- `Query.same_iff`: two queries are the same exactly if they are equal
-/

namespace JqFlow.Query

mutual

/-- A query is the same as another exactly if it is equal to it. -/
theorem same_iff (p q : Query) : same p q = true ↔ p = q := by
  cases p with
  | operation op l r =>
    cases q <;> simp [same, sameOption_iff l, sameOption_iff r, and_assoc]
  | identity => cases q <;> simp [same]
  | recurse => cases q <;> simp [same]
  | null => cases q <;> simp [same]
  | bool b => cases q <;> simp [same]
  | number t => cases q <;> simp [same]
  | string t => cases q <;> simp [same]
  | format n t => cases q <;> simp [same]
  | index n k e => cases q <;> simp [same, sameOption_iff e, and_assoc]
  | slice a b => cases q <;> simp [same, sameOption_iff a, sameOption_iff b]
  | call n args => cases q <;> simp [same, sameList_iff args]
  | array b => cases q <;> simp [same, sameOption_iff b]
  | object entries => cases q <;> simp [same, sameEntries_iff entries]
  | unary op p => cases q <;> simp [same, same_iff p]
  | cond t b elifs o =>
    cases q <;>
      simp [same, same_iff t, same_iff b, samePairs_iff elifs, sameOption_iff o, and_assoc]
  | attempt b h => cases q <;> simp [same, same_iff b, sameOption_iff h]
  | reduce s n i u => cases q <;> simp [same, same_iff s, same_iff i, same_iff u, and_assoc]
  | foreach s n i u e =>
    cases q <;> simp [same, same_iff s, same_iff i, same_iff u, sameOption_iff e, and_assoc]
  | label n b => cases q <;> simp [same, same_iff b]
  | breakTo n => cases q <;> simp [same]
  | var n => cases q <;> simp [same]
  | bind s n b => cases q <;> simp [same, same_iff s, same_iff b, and_assoc]
  | group b => cases q <;> simp [same, same_iff b]
  | «foreign» k => cases q <;> simp [same]

/-- The same for what may be absent. -/
theorem sameOption_iff (p q : Option Query) : sameOption p q = true ↔ p = q := by
  cases p with
  | none => cases q <;> simp [sameOption]
  | some p => cases q <;> simp [sameOption, same_iff p]

/-- The same for lists. -/
theorem sameList_iff (ps qs : List Query) : sameList ps qs = true ↔ ps = qs := by
  cases ps with
  | nil => cases qs <;> simp [sameList]
  | cons p ps => cases qs <;> simp [sameList, same_iff p, sameList_iff ps]

/-- The same for entries. -/
theorem sameEntries_iff (es fs : List (Entry Query)) : sameEntries es fs = true ↔ es = fs := by
  match es, fs with
  | [], [] => simp [sameEntries]
  | [], _ :: _ => simp [sameEntries]
  | _ :: _, [] => simp [sameEntries]
  | ⟨k, v, e⟩ :: es, ⟨k', v', e'⟩ :: fs =>
    simp [sameEntries, same_iff v, sameOption_iff e, sameEntries_iff es, and_assoc]

/-- The same for pairs. -/
theorem samePairs_iff (ps qs : List (Query × Query)) : samePairs ps qs = true ↔ ps = qs := by
  match ps, qs with
  | [], [] => simp [samePairs]
  | [], _ :: _ => simp [samePairs]
  | _ :: _, [] => simp [samePairs]
  | (a, b) :: ps, (c, d) :: qs =>
    simp [samePairs, same_iff a, same_iff b, samePairs_iff ps, and_assoc]

end

instance : DecidableEq Query := fun p q =>
  decidable_of_iff (same p q = true) (same_iff p q)

end JqFlow.Query
