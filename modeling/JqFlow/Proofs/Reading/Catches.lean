import JqFlow.Proofs.Reading.Sound

/-!
# Every catch can belong to the nearest try

A `try` ends with a term, and so may have no `catch` where another one ends. What is derived with a
`catch` that belongs to an earlier `try` is also derived with the `catch` at the nearest one.

## Main definitions

- `Forest.EachNearest`: derivations in each of which every `catch` belongs to the nearest `try`

## Main statements

- `Derivation.exists_catch`: a `catch` is given to the nearest `try`
- `Derivation.exists_nearest`: what is derived is derived with every `catch` at the nearest `try`
- `Derivation.nearest_of_yield`: where there is no `catch`, every derivation is such
-/

namespace JqFlow

/-! ### Phrases that are closed -/

theorem Derivation.endsOpen_token {x : Terminal} (d : Derivation (.t x)) : d.endsOpen = false := by
  cases d with
  | leaf => rfl

/-- What ends with a token does not end with a `try` that has no `catch`. -/
theorem Forest.endsOpen_eq_false {ss : List Symbol} (f : Forest ss)
    (h : ∀ s, ss.getLast? = some s → ∃ x, s = .t x) : f.endsOpen = false := by
  match f with
  | .nil => rfl
  | @Forest.cons s _ first .nil =>
    obtain ⟨x, rfl⟩ := h s rfl
    exact first.endsOpen_token
  | .cons _ (.cons second rest) =>
    refine Forest.endsOpen_eq_false (.cons second rest) fun s hs => h s ?_
    rw [List.getLast?_cons_cons]
    exact hs

theorem Production.object_closes {p : Production} (h : p.lhs = .object) :
    p ≠ .attempt ∧ p.rhs.getLast? = some (.t .closeBrace) := by
  cases p <;> first
    | exact absurd h (by decide)
    | exact ⟨by decide, rfl⟩

theorem Derivation.endsOpen_object {s : Symbol} (d : Derivation s) (hs : s = .n .object) :
    d.endsOpen = false := by
  match d with
  | .leaf .. => exact absurd hs (by simp)
  | .node p children =>
    obtain ⟨hp, hlast⟩ := Production.object_closes (Symbol.n.inj hs)
    have hchildren : children.endsOpen = false := by
      refine children.endsOpen_eq_false fun s hs => ?_
      rw [hlast] at hs
      exact ⟨_, (Option.some.inj hs).symm⟩
    simp [Derivation.endsOpen, hp, hchildren]

/-- A term ends with a token or is an object, unless it is a `try`. -/
theorem Production.primary_closes {p : Production} (h : p.lhs = .primary) :
    p = .attempt ∨ p = .attemptCatch ∨ p = .primaryOfObject ∨
      p ≠ .attempt ∧ ∃ x, p.rhs.getLast? = some (.t x) := by
  cases p <;> first
    | exact absurd h (by decide)
    | exact .inl rfl
    | exact .inr (.inl rfl)
    | exact .inr (.inr (.inl rfl))
    | exact .inr (.inr (.inr ⟨by decide, _, rfl⟩))

/-! ### Giving a catch to the nearest try -/

mutual

/-- After a term that ends with a `try` that has no `catch`, a `catch` can be given to that `try`. -/
theorem Derivation.exists_catch {s : Symbol} (d : Derivation s) (hs : s = .n .primary)
    (hd : d.Nearest) (hopen : d.endsOpen = true) (text : Text)
    {handler : Derivation (.n .primary)} (hhandler : handler.Nearest) :
    ∃ d' : Derivation s, d'.Nearest ∧ d'.yield = d.yield ++ ⟨.kwCatch, text⟩ :: handler.yield := by
  match d with
  | .leaf .. => exact absurd hs (by simp)
  | .node p children =>
    by_cases hchildren : children.endsOpen = true
    · -- The `try` is in the last part, which is a term.
      have hlast : p.rhs.getLast? = some (.n .primary) := by
        rcases Production.primary_closes (Symbol.n.inj hs) with rfl | rfl | rfl | ⟨-, x, hlast⟩
        · rfl
        · rfl
        · match children with
          | .cons object .nil =>
            have hobject : object.endsOpen = true := hchildren
            rw [object.endsOpen_object rfl] at hobject
            exact absurd hobject (by simp)
        · rw [children.endsOpen_eq_false fun s hs => ⟨x, Option.some.inj (hs.symm.trans hlast)⟩]
            at hchildren
          exact absurd hchildren (by simp)
      obtain ⟨children', hnearest, hyield⟩ := children.exists_catch hlast hd hchildren text hhandler
      exact ⟨.node p children', hnearest, hyield⟩
    · obtain rfl : p = .attempt := by simpa [Derivation.endsOpen, hchildren] using hopen
      -- It is this `try` that has no `catch`.
      match children with
      | .cons word (.cons body .nil) =>
        obtain ⟨hword, hfirst, hbody, -⟩ := hd
        refine ⟨.node .attemptCatch
          (.cons word (.cons body (.cons (.leaf .kwCatch text) (.cons handler .nil)))), ?_, ?_⟩
        · exact ⟨hword, hfirst, hbody, fun h => absurd h hchildren, trivial,
            fun h => absurd h (by simp [Derivation.endsOpen]), hhandler,
            fun _ => List.not_mem_nil, trivial⟩
        · simp [Derivation.yield, Forest.yield]

/-- The same for several parts of which the last is a term. -/
theorem Forest.exists_catch {ss : List Symbol} (f : Forest ss)
    (hlast : ss.getLast? = some (.n .primary)) (hf : f.Nearest) (hopen : f.endsOpen = true)
    (text : Text) {handler : Derivation (.n .primary)} (hhandler : handler.Nearest) :
    ∃ f' : Forest ss, f'.Nearest ∧ f'.yield = f.yield ++ ⟨.kwCatch, text⟩ :: handler.yield := by
  match f with
  | .nil => exact absurd hlast (by simp)
  | .cons first .nil =>
    obtain ⟨first', hnearest, hyield⟩ :=
      first.exists_catch (Option.some.inj hlast) hf.1 hopen text hhandler
    refine ⟨.cons first' .nil, ⟨hnearest, fun _ => List.not_mem_nil, trivial⟩, ?_⟩
    simp [Forest.yield, hyield]
  | .cons first (.cons second rest) =>
    rw [List.getLast?_cons_cons] at hlast
    obtain ⟨rest', hnearest, hyield⟩ :=
      Forest.exists_catch (.cons second rest) hlast hf.2.2 hopen text hhandler
    refine ⟨.cons first rest', ⟨hf.1, hf.2.1, hnearest⟩, ?_⟩
    rw [Forest.yield, hyield, ← List.append_assoc]
    rfl

end

/-! ### Giving every catch to the nearest try -/

/-- Does in each of several derivations every `catch` belong to the nearest `try`? -/
def Forest.EachNearest {ss : List Symbol} : Forest ss → Prop
  | .nil => True
  | .cons first rest => first.Nearest ∧ rest.EachNearest

/-- No phrase begins with a `catch`, so one that comes first is a token. -/
theorem Symbol.exists_of_kwCatch_mem_heads {ss : List Symbol} (h : .kwCatch ∈ Symbol.heads [] ss) :
    ∃ ss', ss = .t .kwCatch :: ss' := by
  match ss with
  | [] => exact absurd h List.not_mem_nil
  | .t x :: ss' =>
    obtain rfl : .kwCatch = x := List.mem_singleton.mp h
    exact ⟨ss', rfl⟩
  | .n x :: _ => exact absurd h x.kwCatch_notMem_first

/-- Where no `catch` comes between parts, each part can be looked at alone. -/
theorem Forest.EachNearest.nearest {ss : List Symbol} {f : Forest ss} (h : f.EachNearest)
    (hss : .t .kwCatch ∉ ss) : f.Nearest := by
  match f with
  | .nil => trivial
  | @Forest.cons s ss first rest =>
    rw [List.mem_cons, not_or] at hss
    refine ⟨h.1, fun _ hcatch => ?_, Forest.EachNearest.nearest h.2 hss.2⟩
    obtain ⟨ss', rfl⟩ := Symbol.exists_of_kwCatch_mem_heads hcatch
    exact hss.2 List.mem_cons_self

theorem Production.kwCatch_notMem_rhs {p : Production} (h : p ≠ .attemptCatch) :
    .t .kwCatch ∉ p.rhs := by
  cases p <;> first
    | decide
    | exact absurd rfl h

mutual

/-- What is derived is derived with every `catch` at the nearest `try`. -/
theorem Derivation.exists_nearest {s : Symbol} (d : Derivation s) :
    ∃ d' : Derivation s, d'.Nearest ∧ d'.yield = d.yield := by
  match d with
  | .leaf terminal text => exact ⟨.leaf terminal text, trivial, rfl⟩
  | .node p children =>
    obtain ⟨children', heach, hyield⟩ := children.exists_nearest
    by_cases hp : p = .attemptCatch
    · subst hp
      match children', heach with
      | .cons word (.cons body (.cons (.leaf _ text) (.cons handler .nil))), heach =>
        obtain ⟨hword, hbody, -, hhandler, -⟩ := heach
        have hfirst : word.endsOpen = true → .kwCatch ∉ Symbol.heads [] [Symbol.n .primary] :=
          fun h => absurd (word.endsOpen_token ▸ h) (by simp)
        by_cases hopen : body.endsOpen = true
        · -- The `catch` comes after another `try`, which is nearer.
          obtain ⟨body', hnearest, hbody'⟩ := body.exists_catch rfl hbody hopen text hhandler
          refine ⟨.node .attempt (.cons word (.cons body' .nil)), ?_, ?_⟩
          · exact ⟨hword, hfirst, hnearest, fun _ => List.not_mem_nil, trivial⟩
          · refine Eq.trans ?_ hyield
            simp [Derivation.yield, Forest.yield, hbody']
        · refine ⟨.node .attemptCatch
            (.cons word (.cons body (.cons (.leaf _ text) (.cons handler .nil)))), ?_, hyield⟩
          exact ⟨hword, hfirst, hbody, fun h => absurd h hopen, trivial,
            fun h => absurd h (by simp [Derivation.endsOpen]), hhandler,
            fun _ => List.not_mem_nil, trivial⟩
    · exact ⟨.node p children', heach.nearest (Production.kwCatch_notMem_rhs hp), hyield⟩

theorem Forest.exists_nearest {ss : List Symbol} (f : Forest ss) :
    ∃ f' : Forest ss, f'.EachNearest ∧ f'.yield = f.yield := by
  match f with
  | .nil => exact ⟨.nil, trivial, rfl⟩
  | .cons first rest =>
    obtain ⟨first', hfirst, hyield⟩ := first.exists_nearest
    obtain ⟨rest', hrest, hyield'⟩ := rest.exists_nearest
    exact ⟨.cons first' rest', ⟨hfirst, hrest⟩, by rw [Forest.yield, Forest.yield, hyield, hyield']⟩

end

mutual

/-- Where there is no `catch`, none belongs to a wrong `try`. -/
theorem Derivation.nearest_of_yield {s : Symbol} (d : Derivation s)
    (h : ∀ l ∈ d.yield, l.terminal ≠ .kwCatch) : d.Nearest := by
  match d with
  | .leaf .. => trivial
  | .node _ children => exact children.nearest_of_yield h

theorem Forest.nearest_of_yield {ss : List Symbol} (f : Forest ss)
    (h : ∀ l ∈ f.yield, l.terminal ≠ .kwCatch) : f.Nearest := by
  match f with
  | .nil => trivial
  | .cons first rest =>
    simp only [Forest.yield, List.mem_append, or_imp, forall_and] at h
    refine ⟨first.nearest_of_yield h.1, fun _ hcatch => ?_, rest.nearest_of_yield h.2⟩
    obtain ⟨ss', rfl⟩ := Symbol.exists_of_kwCatch_mem_heads hcatch
    match rest with
    | .cons (.leaf _ text) _ => exact h.2 ⟨.kwCatch, text⟩ List.mem_cons_self rfl

end

end JqFlow
