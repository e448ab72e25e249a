import JqFlow.Proofs.Reading.Regular

/-!
# Printed texts are read

What comes of the printed text of a regular query. It is read unless some part of it cannot be, and
what is read is the query, up to parentheses, unless some part of it is grouped another way.

## Main definitions

- `Returns`: what is read of a text, against what it was printed from
- `Query.Legible`, `Query.Steady`: no part of the query is refused, or read as something else
- `Printed`: what comes of the printed text of a query

## Main statements

- `printed_operation`: what comes of an operation, from what comes of its sides
-/

namespace JqFlow

open Text (Closes)

/-! ### What is read again -/

/-- What comes of a text: something exactly if it is legible, and then the same, as far as `f` can
tell, exactly if it is steady. -/
structure Returns {α β : Type} (legible steady : Prop) (f : α → β) (b : β) (o : Option α) : Prop where
  isSome : o.isSome = true ↔ legible
  same : ∀ a, o = some a → (f a = b ↔ steady)

namespace Returns

variable {α α' β β' : Type} {p p' q q' : Prop} {f : α → β} {g : α' → β'} {b : β} {c : β'}
  {o : Option α} {o' : Option α'}

theorem pure (f : α → β) (a : α) : Returns True True f (f a) (some a) :=
  ⟨by simp, by simp⟩

theorem none (hp : ¬p) : Returns p q f b none :=
  ⟨by simp [hp], by simp⟩

theorem congr (h : Returns p q f b o) (hp : p ↔ p') (hq : q ↔ q') : Returns p' q' f b o :=
  ⟨h.isSome.trans hp, fun a ha => (h.same a ha).trans hq⟩

theorem exists_eq (h : Returns p q f b o) (hp : p) : ∃ a, o = some a :=
  Option.isSome_iff_exists.mp (h.isSome.mpr hp)

theorem map (h : Returns p q f b o) {F : α → α'} (hF : ∀ a, g (F a) = c ↔ f a = b) :
    Returns p q g c (o.map F) := by
  refine ⟨by simp [h.isSome], ?_⟩
  intro a' ha'
  obtain ⟨a, ha, rfl⟩ := Option.map_eq_some_iff.mp ha'
  exact (hF a).trans (h.same a ha)

theorem both (h : Returns p q f b o) (h' : Returns p' q' g c o') :
    Returns (p ∧ p') (q ∧ q') (Prod.map f g) (b, c) (JqFlow.both o o') := by
  refine ⟨?_, ?_⟩
  · rw [← h.isSome, ← h'.isSome]
    cases o <;> cases o' <;> simp [JqFlow.both]
  · rintro ⟨a, a'⟩ hboth
    cases o with
    | none => exact absurd hboth (by simp [JqFlow.both])
    | some v =>
      cases o' with
      | none => exact absurd hboth (by simp [JqFlow.both])
      | some v' =>
        obtain ⟨rfl, rfl⟩ := Prod.mk.inj (Option.some.inj hboth)
        rw [← h.same v rfl, ← h'.same v' rfl]
        simp

/-- Several parts are read again if each of them is. -/
theorem every {γ : Type} {P S : γ → Prop} {u : γ → β} {items : List (γ × Option α)}
    (h : ∀ i ∈ items, Returns (P i.1) (S i.1) f (u i.1) i.2) :
    Returns (∀ i ∈ items, P i.1) (∀ i ∈ items, S i.1) (List.map f)
      (items.map fun i => u i.1) (JqFlow.every (items.map Prod.snd)) := by
  induction items with
  | nil => exact ⟨by simp [JqFlow.every], by simp [JqFlow.every]⟩
  | cons i items ih =>
    have hrest := ih fun j hj => h j (List.mem_cons_of_mem i hj)
    have hboth := (h i List.mem_cons_self).both hrest
    have hcons := hboth.map (F := fun p => p.1 :: p.2) (g := List.map f)
      (c := u i.1 :: items.map fun i => u i.1) (by simp)
    exact hcons.congr (by simp) (by simp)

end Returns

namespace Query

/-- Can every part of the printed text be read? -/
def Legible (q : Query) : Prop :=
  q.Throughout fun p => p.isLegible = true

/-- Is every part read as what it was? -/
def Steady (q : Query) : Prop :=
  q.Throughout fun p => p.keepsAttempt = true

theorem legible_iff {q : Query} : q.Legible ↔ q.isLegible = true ∧ ∀ p ∈ q.parts, p.Legible :=
  throughout_iff

theorem steady_iff {q : Query} : q.Steady ↔ q.keepsAttempt = true ∧ ∀ p ∈ q.parts, p.Steady :=
  throughout_iff

/-- What is read again is the query. -/
abbrev ReadAgain (q : Query) (o : Option Query) : Prop :=
  Returns q.Legible q.Steady ungroup q.ungroup o

end Query

open Query

/-- What comes of the printed text of a query. -/
structure Printed (q : Query) (o : Option Query) : Prop where
  reads : ReadsAt q.level q.leads q.endsOpen q.print o
  returns : q.ReadAgain o
  clash : ∀ (op op' : Operator) (l r : Option Query), q = operation op l r → op.isLone = true →
    op'.precedence = op.precedence → ∀ v, ReadsAt op.level q.leads true (q.print ++ (op'.joint ++ v)) none
  bracketed : q.isBracketed = true → ¬(attempt q none).Steady ∧ ∃ t u subject os,
    q.print = t ++ u ∧ ReadsAt 2 false true t (some subject) ∧ Suffixes u os ∧
      (os.isSome = true ↔ q.Legible)

namespace Printed

variable {q : Query} {o : Option Query}

/-- A query as a pipe of its own. -/
theorem pipe (h : Printed q o) (hpipe : q.IsPipe) : ReadsAt 13 false true q.print o := by
  obtain ⟨hlow, hhigh⟩ := h.reads.bounds
  have hreads : ReadsAt q.level false true q.print o :=
    h.reads.mono (by simp [show _ = _ from hpipe]) fun _ => rfl
  exact hreads.lift hlow hhigh (Nat.le_refl 13) fun _ => rfl

/-- A query in parentheses. -/
theorem group (h : Printed q o) (hpipe : q.IsPipe) :
    ReadsAt 2 false false ("(" ++ q.print ++ ")") (o.map .group) ∧ q.ReadAgain (o.map .group) :=
  ⟨reads_group (h.pipe hpipe), h.returns.map fun _ => Iff.rfl⟩

/-- A query where a term is meant. -/
theorem term (h : Printed q o) {level : Nat} (hterm : q.IsTerm level) (hlow : 2 ≤ level)
    (hhigh : level < 13) :
    ∃ o', ReadsAt level (!q.isOpen && q.leads) (!q.isOpen && q.endsOpen)
      (parenthesize q.isOpen q.print) o' ∧ q.ReadAgain o' := by
  cases hopen : q.isOpen with
  | true =>
    rw [IsTerm, if_pos hopen] at hterm
    obtain ⟨hreads, hreturns⟩ := h.group hterm
    exact ⟨_, hreads.lift (Nat.le_refl 2) hlow (by omega) (by omega), hreturns⟩
  | false =>
    rw [IsTerm, hopen] at hterm
    exact ⟨o, h.reads.lift h.reads.bounds.1 hterm (by omega) (by omega), h.returns⟩

end Printed

/-! ### Operations -/

section Operations

variable {op : Operator} {isLeft : Bool} {q l r : Query} {o ol or : Option Query}

theorem Operator.precedence_le (op : Operator) : op.precedence ≤ 9 := by
  cases op <;> simp [Operator.precedence]

theorem Operator.isRightAssociative_of_isLone (h : op.isLone = true) :
    op.isRightAssociative = false := by
  cases op <;> first
    | rfl
    | exact absurd h Bool.false_ne_true

/-- Is the left side of a lone operator an operation of the same level? -/
def clashes (op : Operator) (l : Query) : Bool :=
  match l with
  | operation op' _ _ => op.isLone && op'.precedence = op.precedence
  | _ => false

theorem needsParens_operation {op' : Operator} (h : op'.precedence ≠ 0) (l r : Option Query) :
    needsParens op isLeft (operation op' l r) =
      (op'.precedence < op.precedence ||
        (op'.precedence = op.precedence && isLeft = op.isRightAssociative)) := by
  cases op' <;> first
    | rfl
    | exact absurd rfl h

/-- A side without parentheses is read at its level, or it is the left side of a lone operator. -/
theorem level_le_sideLevel (hop : op.precedence ≠ 0) (hregular : q.IsRegular)
    (hside : IsSide op isLeft q) (hparens : q.needsParens op isLeft = false)
    (hclash : isLeft = true → clashes op q = false) : q.level ≤ op.sideLevel isLeft := by
  have hle := op.precedence_le
  have hterm : 4 ≤ op.sideLevel isLeft := by
    simp only [Operator.sideLevel, Operator.level]
    split <;> omega
  cases q with
  | operation op' l' r' =>
    have hop' : op'.precedence ≠ 0 := by
      cases l' <;> cases r' <;> simp_all [Query.IsRegular]
    rw [needsParens_operation hop'] at hparens
    simp only [Bool.or_eq_false_iff, decide_eq_false_iff_not, Bool.and_eq_false_iff] at hparens
    simp only [level, Operator.level, Operator.sideLevel]
    split
    · next htight =>
      have hne : op'.precedence ≠ op.precedence := by
        intro heq
        have hloose := hparens.2.resolve_left (by simpa using heq)
        simp only [Bool.or_eq_true, decide_eq_true_eq] at htight
        have hlone := htight.resolve_right hloose
        rw [Operator.isRightAssociative_of_isLone hlone, Bool.not_eq_false] at hloose
        simpa [clashes, hlone, heq] using hclash hloose
      omega
    · omega
  | label name body =>
    obtain ⟨rfl, rfl⟩ := hside.binder rfl
    exact Nat.le_refl 13
  | bind source name body =>
    obtain ⟨rfl, rfl⟩ := hside.binder rfl
    exact Nat.le_refl 13
  | unary op' operand => exact hterm
  | _ =>
    simp only [level]
    split <;> omega

/-- A side of an operation, unless it is the left side of a lone operator. -/
theorem Printed.side (h : Printed q o) (hop : op.precedence ≠ 0) (hregular : q.IsRegular)
    (hside : IsSide op isLeft q) (hclash : isLeft = true → clashes op q = false)
    (hpipe : op = .pipe → q.leads = false) :
    ∃ o', ReadsAt (op.sideLevel isLeft) (!q.needsParens op isLeft && q.leads) true
      (printOperand op isLeft (some q)) o' ∧ q.ReadAgain o' := by
  have hle := op.precedence_le
  have hhigh : op.sideLevel isLeft ≤ 13 := by
    simp only [Operator.sideLevel, Operator.level]
    split <;> omega
  have hlead : op.sideLevel isLeft = 13 → q.leads = false := by
    intro heq
    refine hpipe ?_
    simp only [Operator.sideLevel, Operator.level] at heq
    have hprecedence : op.precedence = 1 := by
      split at heq <;> omega
    cases op <;> first
      | rfl
      | exact absurd hprecedence (by simp [Operator.precedence])
  rw [printOperand]
  cases hparens : q.needsParens op isLeft with
  | true =>
    have hnot : q.leads = false := by
      cases hleads : q.leads with
      | false => rfl
      | true => exact absurd (hparens.symm.trans (hside.leads hleads)) (by simp)
    obtain ⟨hreads, hreturns⟩ := h.group hnot
    refine ⟨_, (hreads.mono (fun h => h) (fun _ => rfl)).lift (Nat.le_refl 2) ?_ hhigh (fun _ => rfl),
      hreturns⟩
    simp only [Operator.sideLevel, Operator.level]
    split <;> omega
  | false =>
    have hlevel := level_le_sideLevel hop hregular hside hparens hclash
    exact ⟨o, (h.reads.mono (fun h => h) (fun _ => rfl)).lift h.reads.bounds.1 hlevel hhigh
      (fun heq => by simp [hlead heq]), h.returns⟩

theorem print_operation (hop : op.precedence ≠ 0) :
    (operation op (some l) (some r)).print =
      printOperand op true (some l) ++ op.joint ++ printOperand op false (some r) := by
  cases op with
  | noop => exact absurd rfl hop
  | other name => exact absurd rfl hop
  | _ => simp [print, Operator.joint]

theorem Operator.isLone_iff : op.isLone = true ↔ op.precedence = 7 ∨ op.precedence = 4 := by
  rw [Operator.isLone, Bool.or_eq_true, Operator.isComparison_iff, Operator.isAssignment_iff]

/-- The left side of a lone operator is refused with it if it is an operation of the same level. -/
theorem printed_clash (hl : Printed l ol) (hop : op.precedence ≠ 0) (h : clashes op l = true) :
    Printed (operation op (some l) (some r)) none := by
  obtain ⟨op', l', r', rfl⟩ : ∃ op' l' r', l = operation op' l' r' := by
    cases l <;> first
      | exact ⟨_, _, _, rfl⟩
      | exact absurd h Bool.false_ne_true
  simp only [clashes, Bool.and_eq_true, decide_eq_true_eq] at h
  obtain ⟨hlone, hlevel⟩ := h
  have hlone' : op'.isLone = true := by
    rw [Operator.isLone_iff, hlevel]
    exact Operator.isLone_iff.mp hlone
  have hparens : needsParens op true (operation op' l' r') = false := by
    rw [needsParens_operation (hlevel ▸ hop), Operator.isRightAssociative_of_isLone hlone]
    simp [hlevel]
  have hpipe : op ≠ .pipe := by
    rintro rfl
    exact absurd hlone Bool.false_ne_true
  have hleads : (operation op (some (operation op' l' r')) (some r)).leads =
      (operation op' l' r').leads := by
    rw [leads]
    simp [hpipe, hparens]
  have hreads := hl.clash op' op l' r' rfl hlone' hlevel.symm (printOperand op false (some r))
  have hlevels : op'.level = op.level := by
    rw [Operator.level, Operator.level, hlevel]
  have htext : (operation op (some (operation op' l' r')) (some r)).print =
      (operation op' l' r').print ++ (op.joint ++ printOperand op false (some r)) := by
    rw [print_operation hop, printOperand, hparens, List.append_assoc]
    rfl
  rw [hlevels, ← htext, ← hleads] at hreads
  refine ⟨hreads, .none ?_, ?_, fun h => absurd h Bool.false_ne_true⟩
  · rw [legible_iff]
    simp [isLegible, isGrouped, hlone, hlevel]
  · intro op₁ op₂ l₁ r₁ heq _ hsame v
    obtain ⟨rfl, -, -⟩ := operation.inj heq
    refine hreads.append_none fun t _ => ?_
    rw [List.append_assoc]
    exact Operator.closes_joint (hsame ▸ hop) _

/-- A call of a function `label` is refused where a pipe begins. -/
theorem reads_callLabel (args : List Query) : ReadsAt 13 false true (call "label" args).print none := by
  cases args with
  | nil => exact reads_labelName (t := []) (.inl rfl) true
  | cons arg args =>
    have hname := reads_labelName (t := "(" ++ Text.join "; " (printList (arg :: args)) ++ ")")
      (.inr rfl) true
    simpa only [print, List.append_assoc] using hname

theorem printed_labelLeft (args : List Query) :
    Printed (operation .pipe (some (call "label" args)) (some r)) none := by
  have hop : Operator.pipe.precedence ≠ 0 := by decide
  refine ⟨?_, .none ?_, ?_, fun h => absurd h Bool.false_ne_true⟩
  · rw [print_operation hop, List.append_assoc]
    refine (reads_callLabel args).append_none fun t _ => ?_
    rw [List.append_assoc]
    exact Operator.closes_joint hop _
  · rw [legible_iff]
    simp [isLegible, pipesNoLabel, callsLabel]
  · intro op₁ op₂ l₁ r₁ heq hlone
    obtain ⟨rfl, -, -⟩ := operation.inj heq
    exact absurd hlone Bool.false_ne_true

theorem leads_of_callsLabel (h : q.callsLabel = true) : q.leads = true := by
  cases q <;> simp_all [callsLabel, leads]

/-- The right side of an operation; a pipe does not go on with a call of a function `label`. -/
theorem Printed.rightSide (h : Printed q o) (hop : op.precedence ≠ 0) (hregular : q.IsRegular)
    (hside : IsSide op false q) :
    ∃ lead o', ReadsAt (op.sideLevel false) lead true (printOperand op false (some q)) o' ∧
      (op = .pipe → lead = false) ∧
      Returns (q.Legible ∧ ¬(op = .pipe ∧ q.callsLabel = true)) q.Steady ungroup q.ungroup o' := by
  by_cases hlabel : op = .pipe ∧ q.leads = true
  · obtain ⟨rfl, hleads⟩ := hlabel
    obtain ⟨args, rfl⟩ := hside.label rfl hleads
    exact ⟨false, none, reads_callLabel args, fun _ => rfl, .none (by simp [callsLabel])⟩
  · have hpipe (h : op = .pipe) : q.leads = false := by
      simpa [h] using hlabel
    obtain ⟨o', hreads, hreturns⟩ := h.side hop hregular hside (by simp) hpipe
    refine ⟨_, o', hreads, fun h => by simp [hpipe h], hreturns.congr ?_ Iff.rfl⟩
    have hnot : ¬(op = .pipe ∧ q.callsLabel = true) := fun h =>
      hlabel ⟨h.1, leads_of_callsLabel h.2⟩
    simp [hnot]

theorem isLegible_operation (hclash : clashes op l = false)
    (hpipe : op = .pipe → l.leads = false) :
    (operation op (some l) (some r)).isLegible = true ↔ ¬(op = .pipe ∧ r.callsLabel = true) := by
  have hgrouped : (operation op (some l) (some r)).isGrouped = true := by
    cases l with
    | operation op' l' r' => cases hlone : op.isLone <;> simp_all [isGrouped, clashes]
    | _ => rfl
  have hleft (h : op = .pipe) : l.callsLabel = false := by
    cases hl : l.callsLabel with
    | false => rfl
    | true => exact absurd ((leads_of_callsLabel hl).symm.trans (hpipe h)) (by simp)
  cases op <;> simp_all [isLegible, hasPlainField, pipesNoLabel]

/-- What comes of an operation is put together from what comes of its sides. -/
theorem printed_operation (hl : Printed l ol) (hr : Printed r or) (hregl : l.IsRegular)
    (hregr : r.IsRegular) (hregular : (operation op (some l) (some r)).IsRegular) :
    ∃ o, Printed (operation op (some l) (some r)) o := by
  obtain ⟨hop, hsidel, hsider⟩ := hregular
  cases hclash : clashes op l with
  | true => exact ⟨none, printed_clash hl hop hclash⟩
  | false =>
    by_cases hlabel : op = .pipe ∧ l.leads = true
    · obtain ⟨rfl, hleads⟩ := hlabel
      obtain ⟨args, rfl⟩ := hsidel.label rfl hleads
      exact ⟨none, printed_labelLeft args⟩
    · have hpipe (h : op = .pipe) : l.leads = false := by
        simpa [h] using hlabel
      obtain ⟨ol', hreadl, hreturnl⟩ := hl.side hop hregl hsidel (fun _ => hclash) hpipe
      obtain ⟨leadr, or', hreadr, hleadr, hreturnr⟩ := hr.rightSide hop hregr hsider
      have hlead : (!l.needsParens op true && l.leads) =
          (operation op (some l) (some r)).leads := by
        by_cases h : op = .pipe
        · simp [leads, h, hpipe h]
        · simp [leads, h]
      rw [hlead] at hreadl
      refine ⟨(both ol' or').map fun p => .binary op p.1 p.2, ?_, ?_, ?_,
        fun h => absurd h Bool.false_ne_true⟩
      · rw [print_operation hop]
        exact reads_binary hop hreadl hreadr fun h => ⟨by simp [leads, h], hleadr h⟩
      · have hboth := (hreturnl.both hreturnr).map (F := fun p => .binary op p.1 p.2)
          (g := ungroup) (c := (operation op (some l) (some r)).ungroup)
          (by simp [ungroup, binary])
        refine hboth.congr ?_ ?_
        · rw [@legible_iff (operation op _ _), isLegible_operation hclash hpipe]
          simp only [parts, Option.toList_some, List.singleton_append, List.mem_cons,
            List.not_mem_nil, or_false, forall_eq_or_imp, forall_eq]
          constructor
          · rintro ⟨hl, hr, hlabel⟩
            exact ⟨hlabel, hl, hr⟩
          · rintro ⟨hlabel, hl, hr⟩
            exact ⟨hl, hr, hlabel⟩
        · rw [@steady_iff (operation op _ _)]
          simp [parts, keepsAttempt]
      · intro op₁ op₂ l₁ r₁ heq hlone hsame v
        obtain ⟨rfl, -, -⟩ := operation.inj heq
        have hclashed := reads_clash hlone hsame hreadl hreadr v
        rw [print_operation hop]
        simpa only [List.append_assoc] using hclashed

end Operations

end JqFlow
