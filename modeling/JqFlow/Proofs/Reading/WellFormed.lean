import JqFlow.Proofs.Reading.Recovered
import JqFlow.Query.Equality

/-!
# What is read is well-formed

Printing and drawing rely on what the grammar lets through: operations are complete and grouped by
how tightly they bind, binders stand only where nothing follows them, and keys that are computed have
the text of their expression. Each phrase of the grammar keeps this.

## Main definitions

- `Operator.Admits`: which operations may be operands of an operation without parentheses
- `Query.IsWellFormed`, `Query.KeysArePrinted`: what holds of each part of a query that was read
- `Query.FormedAt`: what holds of a query that was read at a level

## Main statements

- `Production.action_forms`: what each production keeps
- `wellFormed_of_parse`: every part of a query that was read is well-formed

## Design notes

Suffixes are read as pipes inside of operands and signs, so a pipe at a level below its own is told
by its right side: the access that was the last suffix.
-/

namespace JqFlow

/-- Does an operation of this operator group to the left, or to the right, with others that bind as
tightly? -/
def Operator.groups (isLeft : Bool) : Operator → Bool
  | comma | or | and | add | sub | mul | div | mod => isLeft
  | alt => !isLeft
  | _ => false

/-- May an operation of `op'` be the left or the right operand of one of `op`? It may if it binds more
tightly, or as tightly on the side to which `op` groups. -/
def Operator.Admits (op : Operator) (isLeft : Bool) (op' : Operator) : Prop :=
  op.precedence < op'.precedence ∨ op.precedence = op'.precedence ∧ op.groups isLeft = true

namespace Query

/-- Is this a pipe that a suffix makes of its subject? -/
def isSuffixed : Query → Bool
  | operation .pipe _ (some (index ..)) | operation .pipe _ (some (slice ..)) => true
  | _ => false

/-- What may be an operand of an operation that is no pipe. -/
def IsOperand (op : Operator) (isLeft : Bool) : Query → Prop
  | operation .pipe l r => (operation .pipe l r).isSuffixed = true
  | operation op' _ _ => op.Admits isLeft op'
  | q => q.isBinder = false

/-- What may have a sign before it. -/
def IsUnsigned : Query → Prop
  | operation op l r => (operation op l r).isSuffixed = true
  | unary .. => False
  | q => q.isBinder = false

/-- What holds of each part of a query that was read. -/
def IsWellFormed : Query → Prop
  | operation .pipe (some l) (some _) => l.isBinder = false
  | operation op (some l) (some r) =>
    (op ∈ Operator.all ∧ op ≠ .noop) ∧ l.IsOperand op true ∧ r.IsOperand op false
  | operation .. => False
  | index name key expr => [name.isSome, key.isSome, expr.isSome].count true ≤ 1
  | call name [] => name ∉ (["null", "true", "false"] : List Text)
  | object entries => ∀ e ∈ entries, e.value.isBinder = false
  | unary op operand => op = "-" ∧ operand.IsUnsigned
  | attempt body handler => body.isBinder = false ∧ ∀ p ∈ handler, p.isBinder = false
  | reduce source .. | foreach source .. | bind source .. => source.isBinder = false
  | _ => True

/-- Is the key of each entry the source text of its expression, if it has one? -/
def KeysArePrinted : Query → Prop
  | object entries => ∀ e ∈ entries, ∀ p ∈ e.keyExpr, p.format? = .ok e.key
  | _ => True

/-- What the key of each entry is, before it is known that its expression has a source text. -/
def KeysOfPrint : Query → Prop
  | object entries => ∀ e ∈ entries, ∀ p ∈ e.keyExpr, e.key = p.print
  | _ => True

/-- Every part is well-formed. -/
def Formed (q : Query) : Prop :=
  q.Throughout fun p => p.IsWellFormed ∧ p.KeysOfPrint

theorem formed_iff {q : Query} :
    q.Formed ↔ (q.IsWellFormed ∧ q.KeysOfPrint) ∧ ∀ p ∈ q.parts, p.Formed :=
  throughout_iff

/-- What holds of a query that was read at a level. It is a pipe of a lower level if it ends with a
suffix. -/
structure FormedAt (level : Nat) (q : Query) : Prop where
  formed : q.Formed
  level_le : q.level ≤ level ∨ 2 < level ∧ q.isSuffixed = true

end Query

open Query

/-! ### Levels and operands -/

/-- An operation that is read at the level of a side may stand there. -/
theorem Operator.admits_of_level_le {op op' : Operator} {isLeft : Bool} (hop : op.precedence ≠ 0)
    (hpipe : op ≠ .pipe) (h : op'.level ≤ op.sideLevel isLeft) : op.Admits isLeft op' := by
  have hle := op.precedence_le
  have hle' := op'.precedence_le
  by_cases hgroups : op.groups isLeft = true
  · have hside := h.trans (op.sideLevel_le isLeft)
    simp only [level] at hside
    rcases Nat.lt_or_ge op.precedence op'.precedence with hlt | hge
    · exact .inl hlt
    · exact .inr ⟨by omega, hgroups⟩
  · have hside : op.sideLevel isLeft = op.level - 1 := by
      cases op <;> cases isLeft <;> first
        | rfl
        | exact absurd rfl hop
        | exact absurd rfl hpipe
        | exact absurd rfl hgroups
    rw [hside] at h
    simp only [level] at h
    exact .inl (by omega)

namespace Query.FormedAt

variable {q : Query} {level level' : Nat}

/-- What is read at a level is read at a looser one. -/
theorem lift (level : Nat) (h : q.FormedAt level) (hle : level ≤ level') (hlow : 2 < level') :
    q.FormedAt level' :=
  ⟨h.formed, h.level_le.imp (fun hlevel => hlevel.trans hle) fun hsuffixed => ⟨hlow, hsuffixed.2⟩⟩

/-- Only a pipe can end with a binder. -/
theorem isBinder_eq_false (h : q.FormedAt level) (hlevel : level < 13) : q.isBinder = false := by
  cases q with
  | label name body =>
    rcases h.level_le with hle | ⟨-, hsuffixed⟩
    · exact absurd (show 13 ≤ level from hle) (by omega)
    · exact absurd hsuffixed Bool.false_ne_true
  | bind source name body =>
    rcases h.level_le with hle | ⟨-, hsuffixed⟩
    · exact absurd (show 13 ≤ level from hle) (by omega)
    · exact absurd hsuffixed Bool.false_ne_true
  | _ => rfl

/-- What is read at the level of a side may be the operand. -/
theorem isOperand {op : Operator} {isLeft : Bool} (h : q.FormedAt level) (hop : op.precedence ≠ 0)
    (hpipe : op ≠ .pipe) (hlevel : level ≤ op.sideLevel isLeft) (hlow : level < 13) :
    q.IsOperand op isLeft := by
  cases q with
  | operation op' l r =>
    -- Below its own level a pipe is one that a suffix made; any other operation binds tightly enough.
    by_cases hpipe' : op' = .pipe
    · subst hpipe'
      rcases h.level_le with hle | ⟨-, hsuffixed⟩
      · exact absurd (show 13 ≤ level from hle) (by omega)
      · exact hsuffixed
    · have hadmits : op.Admits isLeft op' := by
        rcases h.level_le with hle | ⟨-, hsuffixed⟩
        · exact Operator.admits_of_level_le hop hpipe (hle.trans hlevel)
        · cases op' <;> first
            | exact absurd rfl hpipe'
            | exact absurd hsuffixed Bool.false_ne_true
      cases op' <;> first
        | exact hadmits
        | exact absurd rfl hpipe'
  | label name body => exact h.isBinder_eq_false hlow
  | bind source name body => exact h.isBinder_eq_false hlow
  | _ => rfl

/-- What is read at the level of suffixes may have a sign before it. -/
theorem isUnsigned (h : q.FormedAt 3) : q.IsUnsigned := by
  cases q with
  | operation op l r =>
    rcases h.level_le with hle | ⟨-, hsuffixed⟩
    · have hprecedence := op.precedence_le
      simp only [Query.level, Operator.level] at hle
      omega
    · exact hsuffixed
  | unary op operand =>
    rcases h.level_le with hle | ⟨-, hsuffixed⟩
    · exact absurd (show 4 ≤ 3 from hle) (by decide)
    · exact absurd hsuffixed Bool.false_ne_true
  | label name body => exact h.isBinder_eq_false (by decide)
  | bind source name body => exact h.isBinder_eq_false (by decide)
  | _ => rfl

end Query.FormedAt

/-! ### What phrases are put together from -/

namespace Query

variable {level left right : Nat} {l r q source subject suffix body : Query}

theorem formedAt_of_parts (hhere : q.IsWellFormed) (hkeys : q.KeysOfPrint)
    (hparts : ∀ p ∈ q.parts, p.Formed) (hlevel : q.level ≤ level) : q.FormedAt level :=
  ⟨formed_iff.mpr ⟨⟨hhere, hkeys⟩, hparts⟩, .inl hlevel⟩

/-- The operation of an operator other than the pipe. -/
theorem formedAt_binary {op : Operator} (hjoins : op.Joins left right level) (hlevel : level < 13)
    (hl : l.FormedAt left) (hr : r.FormedAt right) : (binary op l r).FormedAt level := by
  obtain ⟨hop, hleft, hright, hle⟩ := hjoins
  have hpipe : op ≠ .pipe := by
    rintro rfl
    exact absurd (show 13 ≤ level from hle) (by omega)
  have hlow (isLeft : Bool) : op.sideLevel isLeft < 13 :=
    ((op.sideLevel_le isLeft).trans hle).trans_lt hlevel
  have hl' : l.IsOperand op true := hl.isOperand hop hpipe hleft (hleft.trans_lt (hlow true))
  have hr' : r.IsOperand op false := hr.isOperand hop hpipe hright (hright.trans_lt (hlow false))
  have hhere : (binary op l r).IsWellFormed := by
    cases op <;> first
      | exact absurd rfl hpipe
      | exact absurd rfl hop
      | exact ⟨by decide, hl', hr'⟩
  refine formedAt_of_parts hhere trivial ?_ hle
  simp only [binary, parts, Option.toList_some, List.singleton_append, List.forall_mem_cons,
    List.not_mem_nil, false_imp_iff, implies_true, and_true]
  exact ⟨hl.formed, hr.formed⟩

theorem formed_pipe (hl : l.Formed) (hbinder : l.isBinder = false) (hr : r.Formed) :
    (pipe l r).Formed := by
  refine formed_iff.mpr ⟨⟨hbinder, trivial⟩, ?_⟩
  simp only [pipe, parts, Option.toList_some, List.singleton_append, List.forall_mem_cons,
    List.not_mem_nil, false_imp_iff, implies_true, and_true]
  exact ⟨hl, hr⟩

/-- A suffix attached to its subject. -/
theorem formedAt_chain (h : subject.FormedAt 3) (hsuffix : suffix.FormedAt 3)
    (haccess : (pipe subject suffix).isSuffixed = true) : (chain subject suffix).FormedAt 3 := by
  have hpipe : (pipe subject suffix).FormedAt 3 :=
    ⟨formed_pipe h.formed (h.isBinder_eq_false (by decide)) hsuffix.formed,
      .inr ⟨by decide, haccess⟩⟩
  -- A suffix of the identity stands for itself.
  cases subject with
  | identity => exact hsuffix
  | _ => exact hpipe

theorem formedAt_iterate : iterate.FormedAt 3 :=
  formedAt_of_parts (by simp [iterate, IsWellFormed]) trivial (by simp [iterate, parts])
    (Nat.le_refl 3)

theorem formedAt_field (name : Text) : (field name).FormedAt 2 :=
  formedAt_of_parts (by simp [field, IsWellFormed]) trivial (by simp [field, parts])
    (Nat.le_refl 2)

theorem formedAt_keyIndex (key : Text) : (keyIndex key).FormedAt 2 :=
  formedAt_of_parts (by simp [keyIndex, IsWellFormed]) trivial (by simp [keyIndex, parts])
    (Nat.le_refl 2)

theorem formedAt_at (h : q.Formed) : (Query.at q).FormedAt 3 :=
  formedAt_of_parts (by simp [Query.at, IsWellFormed]) trivial
    (by simpa [Query.at, parts] using h) (Nat.le_refl 3)

theorem formedAt_slice {start stop : Option Query} (h : ∀ p ∈ start, p.Formed)
    (h' : ∀ p ∈ stop, p.Formed) : (slice start stop).FormedAt 3 := by
  refine formedAt_of_parts trivial trivial ?_ (Nat.le_refl 3)
  simp only [parts, List.forall_mem_append, Option.mem_toList]
  exact ⟨h, h'⟩

/-- A name that stands alone is a constant if it is the name of one. -/
theorem formedAt_ofName (name : Text) : (ofName name).FormedAt 2 := by
  simp only [ofName]
  split_ifs with hnull htrue hfalse
  · exact formedAt_of_parts trivial trivial (by simp [parts]) (Nat.le_refl 2)
  · exact formedAt_of_parts trivial trivial (by simp [parts]) (Nat.le_refl 2)
  · exact formedAt_of_parts trivial trivial (by simp [parts]) (Nat.le_refl 2)
  · have hname : name ∉ (["null", "true", "false"] : List Text) := by
      simp [hnull, htrue, hfalse]
    exact formedAt_of_parts hname trivial (by simp [parts]) (Nat.le_refl 2)

theorem formedAt_call (name : Text) {args : List Query} (hne : args ≠ [])
    (h : ∀ p ∈ args, p.Formed) : (call name args).FormedAt 2 := by
  cases args with
  | nil => exact absurd rfl hne
  | cons arg args => exact formedAt_of_parts trivial trivial h (Nat.le_refl 2)

theorem formedAt_cond {test branch : Query} {elifs : List (Query × Query)}
    {otherwise : Option Query} (htest : test.Formed) (hbranch : branch.Formed)
    (helifs : ∀ p ∈ elifs, p.1.Formed ∧ p.2.Formed) (hotherwise : ∀ p ∈ otherwise, p.Formed) :
    (cond test branch elifs otherwise).FormedAt 2 := by
  refine formedAt_of_parts trivial trivial ?_ (Nat.le_refl 2)
  simp only [parts, List.cons_append, List.forall_mem_cons, List.forall_mem_append,
    List.forall_mem_flatMap, Option.mem_toList, List.not_mem_nil, false_imp_iff, implies_true,
    and_true]
  exact ⟨htest, hbranch, helifs, hotherwise⟩

/-- The body and the handler may not be binders; a term with a question mark after it may have a
suffix before that. -/
theorem formed_attempt {handler : Option Query} (h : body.Formed) (hbinder : body.isBinder = false)
    (h' : ∀ p ∈ handler, p.Formed ∧ p.isBinder = false) : (attempt body handler).Formed := by
  refine formed_iff.mpr ⟨⟨⟨hbinder, fun p hp => (h' p hp).2⟩, trivial⟩, ?_⟩
  simp only [parts, List.forall_mem_cons, Option.mem_toList]
  exact ⟨h, fun p hp => (h' p hp).1⟩

theorem formedAt_bind {name : Text} (h : source.FormedAt 3) (hbody : body.Formed) :
    (bind source name body).FormedAt 13 := by
  refine formedAt_of_parts (h.isBinder_eq_false (by decide)) trivial ?_ (Nat.le_refl 13)
  simp only [parts, List.forall_mem_cons, List.not_mem_nil, false_imp_iff, implies_true, and_true]
  exact ⟨h.formed, hbody⟩

theorem formedAt_reduce {name : Text} {init update : Query} (h : source.FormedAt 3)
    (hinit : init.Formed) (hupdate : update.Formed) :
    (reduce source name init update).FormedAt 2 := by
  refine formedAt_of_parts (h.isBinder_eq_false (by decide)) trivial ?_ (Nat.le_refl 2)
  simp only [parts, List.forall_mem_cons, List.not_mem_nil, false_imp_iff, implies_true, and_true]
  exact ⟨h.formed, hinit, hupdate⟩

theorem formedAt_foreach {name : Text} {init update : Query} {extract : Option Query}
    (h : source.FormedAt 3) (hinit : init.Formed) (hupdate : update.Formed)
    (hextract : ∀ p ∈ extract, p.Formed) :
    (foreach source name init update extract).FormedAt 2 := by
  refine formedAt_of_parts (h.isBinder_eq_false (by decide)) trivial ?_ (Nat.le_refl 2)
  simp only [parts, List.forall_mem_cons, Option.mem_toList]
  exact ⟨h.formed, hinit, hupdate, hextract⟩

end Query

/-- What holds of an entry that was read. -/
structure Entry.IsFormed (e : Entry Query) : Prop where
  value : e.value.Formed
  binder : e.value.isBinder = false
  key : ∀ p ∈ e.keyExpr, p.Formed ∧ e.key = p.print

theorem Query.formedAt_object {entries : List (Entry Query)} (h : ∀ e ∈ entries, e.IsFormed) :
    (object entries).FormedAt 2 := by
  refine formedAt_of_parts (fun e he => (h e he).binder) (fun e he p hp => ((h e he).key p hp).2) ?_
    (Nat.le_refl 2)
  intro p hp
  obtain ⟨e, he, hp⟩ := List.mem_flatMap.mp hp
  rcases List.mem_cons.mp hp with rfl | hp
  · exact (h e he).value
  · exact ((h e he).key p (Option.mem_toList.mp hp)).1

/-! ### What productions keep -/

/-- What holds of the meaning of a phrase. The value of an entry may be a pipe of signed terms. -/
def Nonterminal.Forms : (x : Nonterminal) → x.Value → Prop
  | .start, (q : Query) => q.FormedAt 13
  | .pipe, (q : Query) => q.FormedAt 13
  | .comma, (q : Query) => q.FormedAt 12
  | .alt, (q : Query) => q.FormedAt 11
  | .assign, (q : Query) => q.FormedAt 10
  | .orExpr, (q : Query) => q.FormedAt 9
  | .andExpr, (q : Query) => q.FormedAt 8
  | .compare, (q : Query) => q.FormedAt 7
  | .additive, (q : Query) => q.FormedAt 6
  | .multiplicative, (q : Query) => q.FormedAt 5
  | .unary, (q : Query) => q.FormedAt 4
  | .suffixed, (q : Query) => q.FormedAt 3
  | .primary, (q : Query) => q.FormedAt 2
  | .object, (q : Query) => q.FormedAt 2
  | .objValue, (q : Query) => q.Formed ∧ q.isBinder = false
  | .assignSym, op => op.Joins 9 9 10
  | .cmpSym, op => op.Joins 6 6 7
  | .addSym, op => op.Joins 6 5 6
  | .mulSym, op => op.Joins 5 4 5
  | .moreArgs, (qs : List Query) => ∀ q ∈ qs, q.Formed
  | .elif, (p : Query × Query) => p.1.Formed ∧ p.2.Formed
  | .elifs, (ps : List (Query × Query)) => ∀ p ∈ ps, p.1.Formed ∧ p.2.Formed
  | .entry, (e : Entry Query) => e.IsFormed
  | .moreEntries, (es : List (Entry Query)) => ∀ e ∈ es, e.IsFormed

/-- What holds of the meaning of a symbol. Any text may be that of a token. -/
def Symbol.Forms : (s : Symbol) → s.Value → Prop
  | .t _, _ => True
  | .n x, v => x.Forms v

/-- What holds of the meanings of several symbols. -/
def Symbol.AllForm : (ss : List Symbol) → Symbol.Values ss → Prop
  | [], _ => True
  | s :: ss, (v, vs) => s.Forms v ∧ AllForm ss vs

open JqFlow.Symbol (AllForm)

theorem Query.forall_mem_none {P : Query → Prop} : ∀ p ∈ (none : Option Query), P p :=
  fun _ hp => absurd hp (Option.not_mem_none _)

theorem Query.forall_mem_some {P : Query → Prop} {q : Query} (h : P q) : ∀ p ∈ some q, P p := by
  intro p hp
  obtain rfl := Option.some.inj hp
  exact h

/-- What holds of the parts of a phrase holds of the phrase. -/
theorem Production.action_forms (p : Production) (vs : Symbol.Values p.rhs)
    (h : AllForm p.rhs vs) : p.lhs.Forms (p.action vs) := by
  cases p with
  | start => exact h.1
  | pipeOfComma => exact FormedAt.lift 12 h.1 (by decide) (by decide)
  | pipeOp =>
    obtain ⟨ha, -, hb, -⟩ := h
    exact ⟨formed_pipe (FormedAt.formed ha) (FormedAt.isBinder_eq_false ha (by decide))
      (FormedAt.formed hb), .inl (Nat.le_refl 13)⟩
  | bind =>
    obtain ⟨hsource, -, -, -, hbody, -⟩ := h
    exact formedAt_bind hsource (FormedAt.formed hbody)
  | label =>
    obtain ⟨-, -, -, hbody, -⟩ := h
    exact formedAt_of_parts trivial trivial (List.forall_mem_singleton.mpr (FormedAt.formed hbody))
      (Nat.le_refl 13)
  | commaOfAlt => exact FormedAt.lift 11 h.1 (by decide) (by decide)
  | commaOp => exact formedAt_binary (by decide) (by decide) h.1 h.2.2.1
  | altOfAssign => exact FormedAt.lift 10 h.1 (by decide) (by decide)
  | altOp => exact formedAt_binary (by decide) (by decide) h.1 h.2.2.1
  | assignOfOr => exact FormedAt.lift 9 h.1 (by decide) (by decide)
  | assignOp => exact formedAt_binary h.2.1 (by decide) h.1 h.2.2.1
  | orOfAnd => exact FormedAt.lift 8 h.1 (by decide) (by decide)
  | orOp => exact formedAt_binary (by decide) (by decide) h.1 h.2.2.1
  | andOfCompare => exact FormedAt.lift 7 h.1 (by decide) (by decide)
  | andOp => exact formedAt_binary (by decide) (by decide) h.1 h.2.2.1
  | compareOfAdditive => exact FormedAt.lift 6 h.1 (by decide) (by decide)
  | compareOp => exact formedAt_binary h.2.1 (by decide) h.1 h.2.2.1
  | additiveOfMultiplicative => exact FormedAt.lift 5 h.1 (by decide) (by decide)
  | additiveOp => exact formedAt_binary h.2.1 (by decide) h.1 h.2.2.1
  | multiplicativeOfUnary => exact FormedAt.lift 4 h.1 (by decide) (by decide)
  | multiplicativeOp => exact formedAt_binary h.2.1 (by decide) h.1 h.2.2.1
  | unaryOfSuffixed => exact FormedAt.lift 3 h.1 (by decide) (by decide)
  | negate =>
    obtain ⟨-, hq, -⟩ := h
    exact formedAt_of_parts ⟨rfl, FormedAt.isUnsigned hq⟩ trivial
      (List.forall_mem_singleton.mpr (FormedAt.formed hq)) (Nat.le_refl 4)
  | symAssign | symModify | symUpdateAdd | symUpdateSub | symUpdateMul | symUpdateDiv | symUpdateMod
  | symUpdateAlt => exact Operator.joins_assignment rfl
  | symEq | symNe | symLt | symLe | symGt | symGe => exact Operator.joins_comparison rfl
  | symAdd => exact (show Operator.Joins .add 6 5 6 by decide)
  | symSub => exact (show Operator.Joins .sub 6 5 6 by decide)
  | symMul => exact (show Operator.Joins .mul 5 4 5 by decide)
  | symDiv => exact (show Operator.Joins .div 5 4 5 by decide)
  | symMod => exact (show Operator.Joins .mod 5 4 5 by decide)
  | suffixedOfPrimary => exact FormedAt.lift 2 h.1 (by decide) (by decide)
  | suffixField => exact formedAt_chain h.1 ((formedAt_field _).lift 2 (by decide) (by decide)) rfl
  | suffixKey => exact formedAt_chain h.1 ((formedAt_keyIndex _).lift 2 (by decide) (by decide)) rfl
  | suffixIterate => exact formedAt_chain h.1 formedAt_iterate rfl
  | suffixIndex =>
    obtain ⟨hq, -, he, -⟩ := h
    exact formedAt_chain hq (formedAt_at (FormedAt.formed he)) rfl
  | suffixSlice =>
    obtain ⟨hq, -, ha, -, hb, -⟩ := h
    exact formedAt_chain hq (formedAt_slice (forall_mem_some (FormedAt.formed ha))
      (forall_mem_some (FormedAt.formed hb))) rfl
  | suffixSliceFrom =>
    obtain ⟨hq, -, ha, -⟩ := h
    exact formedAt_chain hq (formedAt_slice (forall_mem_some (FormedAt.formed ha)) forall_mem_none) rfl
  | suffixSliceTo =>
    obtain ⟨hq, -, -, hb, -⟩ := h
    exact formedAt_chain hq (formedAt_slice forall_mem_none (forall_mem_some (FormedAt.formed hb))) rfl
  | suffixSliceAll => exact formedAt_chain h.1 (formedAt_slice forall_mem_none forall_mem_none) rfl
  | suffixTry =>
    obtain ⟨q, _⟩ := vs
    obtain ⟨hq, -⟩ := h
    refine ⟨formed_attempt (FormedAt.formed hq)
      (FormedAt.isBinder_eq_false hq (by decide)) forall_mem_none, .inl ?_⟩
    show (Query.attempt q none).level ≤ 3
    simp only [Query.level]
    split <;> omega
  | identity | recurse | number | string | format | formatString | varRef | breakTo =>
    exact formedAt_of_parts trivial trivial (fun _ hp => absurd hp List.not_mem_nil) (Nat.le_refl 2)
  | field => exact formedAt_field _
  | quotedField => exact formedAt_keyIndex _
  | group =>
    obtain ⟨-, hq, -⟩ := h
    exact formedAt_of_parts trivial trivial (List.forall_mem_singleton.mpr (FormedAt.formed hq))
      (Nat.le_refl 2)
  | arrayEmpty =>
    exact formedAt_of_parts trivial trivial (fun _ hp => absurd hp List.not_mem_nil) (Nat.le_refl 2)
  | array =>
    obtain ⟨-, hq, -⟩ := h
    exact formedAt_of_parts trivial trivial (List.forall_mem_singleton.mpr (FormedAt.formed hq))
      (Nat.le_refl 2)
  | primaryOfObject => exact h.1
  | bareName => exact formedAt_ofName _
  | call =>
    obtain ⟨-, -, harg, -⟩ := h
    exact formedAt_call _ (List.cons_ne_nil _ _)
      (List.forall_mem_singleton.mpr (FormedAt.formed harg))
  | callMore =>
    obtain ⟨-, -, harg, hargs, -⟩ := h
    exact formedAt_call _ (List.cons_ne_nil _ _)
      (List.forall_mem_cons.mpr ⟨FormedAt.formed harg, hargs⟩)
  | condThen =>
    obtain ⟨-, htest, -, hbranch, -⟩ := h
    exact formedAt_cond (FormedAt.formed htest) (FormedAt.formed hbranch) (by simp)
      forall_mem_none
  | condElse =>
    obtain ⟨-, htest, -, hbranch, -, hotherwise, -⟩ := h
    exact formedAt_cond (FormedAt.formed htest) (FormedAt.formed hbranch) (by simp)
      (forall_mem_some (FormedAt.formed hotherwise))
  | condElif =>
    obtain ⟨-, htest, -, hbranch, helifs, -⟩ := h
    exact formedAt_cond (FormedAt.formed htest) (FormedAt.formed hbranch) helifs forall_mem_none
  | condElifElse =>
    obtain ⟨-, htest, -, hbranch, helifs, -, hotherwise, -⟩ := h
    exact formedAt_cond (FormedAt.formed htest) (FormedAt.formed hbranch) helifs
      (forall_mem_some (FormedAt.formed hotherwise))
  | attempt =>
    obtain ⟨_, body, ⟨⟩⟩ := vs
    obtain ⟨-, hbody, -⟩ := h
    refine ⟨formed_attempt (FormedAt.formed hbody)
      (FormedAt.isBinder_eq_false hbody (by decide)) forall_mem_none, .inl ?_⟩
    have hlevel : body.level ≤ 2 :=
      (FormedAt.level_le hbody).resolve_right fun hsuffixed => absurd hsuffixed.1 (by decide)
    show (Query.attempt body none).level ≤ 2
    simp [Query.level, isBracketed, isBracketed_eq_false hlevel]
  | attemptCatch =>
    obtain ⟨-, hbody, -, hhandler, -⟩ := h
    exact ⟨formed_attempt (FormedAt.formed hbody) (FormedAt.isBinder_eq_false hbody (by decide))
      (forall_mem_some ⟨FormedAt.formed hhandler, FormedAt.isBinder_eq_false hhandler (by decide)⟩),
      .inl (Nat.le_refl 2)⟩
  | reduce =>
    obtain ⟨-, hsource, -, -, -, hinit, -, hupdate, -⟩ := h
    exact formedAt_reduce hsource (FormedAt.formed hinit) (FormedAt.formed hupdate)
  | foreach =>
    obtain ⟨-, hsource, -, -, -, hinit, -, hupdate, -⟩ := h
    exact formedAt_foreach hsource (FormedAt.formed hinit) (FormedAt.formed hupdate) forall_mem_none
  | foreachExtract =>
    obtain ⟨-, hsource, -, -, -, hinit, -, hupdate, -, hextract, -⟩ := h
    exact formedAt_foreach hsource (FormedAt.formed hinit) (FormedAt.formed hupdate)
      (forall_mem_some (FormedAt.formed hextract))
  | argsOne =>
    obtain ⟨-, hq, -⟩ := h
    exact List.forall_mem_singleton.mpr (FormedAt.formed hq)
  | argsMore =>
    obtain ⟨hqs, -, hq, -⟩ := h
    exact List.forall_mem_append.mpr ⟨hqs, List.forall_mem_singleton.mpr (FormedAt.formed hq)⟩
  | elifsOne => exact List.forall_mem_singleton.mpr h.1
  | elifsMore =>
    exact List.forall_mem_append.mpr ⟨h.1, List.forall_mem_singleton.mpr h.2.1⟩
  | elifBranch =>
    obtain ⟨-, htest, -, hbranch, -⟩ := h
    exact ⟨FormedAt.formed htest, FormedAt.formed hbranch⟩
  | objectEmpty => exact formedAt_object (by simp)
  | objectOne => exact formedAt_object (List.forall_mem_singleton.mpr h.2.1)
  | objectMore => exact formedAt_object (List.forall_mem_cons.mpr ⟨h.2.1, h.2.2.1⟩)
  | entriesOne => exact List.forall_mem_singleton.mpr h.2.1
  | entriesMore =>
    exact List.forall_mem_append.mpr ⟨h.1, List.forall_mem_singleton.mpr h.2.2.1⟩
  | entryName => exact ⟨h.2.2.1.1, h.2.2.1.2, Query.forall_mem_none⟩
  | entryString => exact ⟨h.2.2.1.1, h.2.2.1.2, Query.forall_mem_none⟩
  | entryComputed =>
    obtain ⟨-, hkey, -, -, hvalue, -⟩ := h
    exact ⟨hvalue.1, hvalue.2, forall_mem_some ⟨FormedAt.formed hkey, rfl⟩⟩
  | entryField => exact ⟨(formedAt_field _).formed, rfl, Query.forall_mem_none⟩
  | entryKey => exact ⟨(formedAt_keyIndex _).formed, rfl, Query.forall_mem_none⟩
  | entryVariable =>
    refine ⟨formed_iff.mpr ⟨⟨trivial, trivial⟩, ?_⟩, rfl, Query.forall_mem_none⟩
    exact fun _ hp => absurd hp List.not_mem_nil
  | valueOfUnary => exact ⟨FormedAt.formed h.1, FormedAt.isBinder_eq_false h.1 (by decide)⟩
  | valuePipe =>
    obtain ⟨ha, -, hb, -⟩ := h
    exact ⟨formed_pipe ha.1 ha.2 (FormedAt.formed hb), rfl⟩

mutual

/-- What holds of the meaning of every derivation. -/
theorem Derivation.forms {s : Symbol} (d : Derivation s) : s.Forms d.eval := by
  match d with
  | .leaf x text => trivial
  | .node p children => exact p.action_forms _ children.forms

theorem Forest.forms {ss : List Symbol} (f : Forest ss) : AllForm ss f.eval := by
  match f with
  | .nil => trivial
  | .cons first rest => exact ⟨first.forms, rest.forms⟩

end

/-! ### What is read -/

theorem formed_of_parse {t : Text} {q : Query} (h : parse t = .ok q) : q.Formed := by
  rw [parse] at h
  split at h
  · exact absurd h (by simp)
  · cases hd : derive t with
    | error e => simp [hd, Except.map] at h
    | ok d =>
      rw [hd] at h
      obtain rfl := Except.ok.inj h
      exact FormedAt.formed d.forms

/-- The key of an entry is the source text of its expression if the expression has one. -/
theorem Query.keysArePrinted_of_regular {q : Query} (h : q.KeysOfPrint)
    (hregular : ∀ p ∈ q.parts, p.Throughout IsRegular) : q.KeysArePrinted := by
  cases q with
  | object entries =>
    intro e he p hp
    have hpart : p ∈ (object entries).parts := by
      refine List.mem_flatMap.mpr ⟨e, he, ?_⟩
      exact List.mem_cons_of_mem _ (Option.mem_toList.mpr hp)
    rw [h e he p hp]
    exact format?_of_regular (hregular p hpart)
  | _ => trivial

/-- Every part of a query that was read is well-formed, and the keys in it that are computed have the
source texts of their expressions. -/
theorem wellFormed_of_parse {t : Text} {q : Query} (h : parse t = .ok q) :
    q.Throughout fun p => p.IsWellFormed ∧ p.KeysArePrinted := by
  have hformed := formed_of_parse h
  have hregular : q.Throughout IsRegular := (isWhole_of_parse h).proper.mono fun _ => And.left
  clear h
  induction hformed with
  | intro here _ ih =>
    have hparts := (throughout_iff.mp hregular).2
    exact .intro ⟨here.1, keysArePrinted_of_regular here.2 hparts⟩
      fun p hp => ih p hp (hparts p hp)

/-- In `{(.a): -.b[0]} // 1` the key has its text, and the sign stands before an access. -/
theorem wellFormed_of_parse_key :
    parse "{(.a): -.b[0]} // 1" =
      .ok (.binary .alt (.object [⟨".a", .unary "-" (.pipe (.field "b") (.at (.number "0"))),
        some (.field "a")⟩]) (.number "1")) ∧
    (Query.binary .alt (.object [⟨".a", .unary "-" (.pipe (.field "b") (.at (.number "0"))),
        some (.field "a")⟩]) (.number "1")).Throughout
      fun p => p.IsWellFormed ∧ p.KeysArePrinted := by
  have hparse : parse "{(.a): -.b[0]} // 1" =
      .ok (.binary .alt (.object [⟨".a", .unary "-" (.pipe (.field "b") (.at (.number "0"))),
        some (.field "a")⟩]) (.number "1")) :=
    parse_eq_ok_iff_toOption.mpr (by decide +kernel)
  exact ⟨hparse, wellFormed_of_parse hparse⟩

end JqFlow
