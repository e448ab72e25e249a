import JqFlow.Proofs.Reading.Printed
import JqFlow.Proofs.Reading.Sound

/-!
# What is read is regular

Every query that the reader makes of a text is regular, and its operations are grouped as the grammar
groups them. Each phrase of the grammar keeps what can be said of its meaning.

## Main definitions

- `Query.Proper`: every part of a query is regular and grouped as the grammar groups it
- `Query.ReadAs`: what can be said of a query that was read at a level
- `Symbol.Holds`: what can be said of the meaning of a symbol

## Main statements

- `Production.action_holds`: what each production keeps
- `isWhole_of_parse`: what is read is proper
-/

namespace JqFlow

namespace Query

/-- Is every part of a query regular, and grouped as the grammar groups it? -/
def Proper (q : Query) : Prop :=
  q.Throughout fun p => p.IsRegular ∧ p.isGrouped = true

theorem proper_iff {q : Query} :
    q.Proper ↔ (q.IsRegular ∧ q.isGrouped = true) ∧ ∀ p ∈ q.parts, p.Proper :=
  throughout_iff

/-- What can be said of a query that was read at a level. It is a pipe if it was put together from
suffixes. Unless `lead`, it does not begin with a function name `label`; unless `isOpen`, a term does
not end with a `try` that has no `catch`. -/
structure ReadAs (level : Nat) (lead isOpen : Bool) (q : Query) : Prop where
  proper : q.Proper
  level_le : q.level ≤ level ∨ 2 < level ∧ ∃ l r, q = operation .pipe l r
  leads : q.leads = true → lead = true
  endsOpen : level = 2 → q.endsOpen = true → isOpen = true

/-- A query that may be read alone. -/
structure IsWhole (q : Query) : Prop where
  proper : q.Proper
  pipe : q.IsPipe

theorem leads_pipe (l r : Option Query) : (operation .pipe l r).leads = false := by
  cases l <;> simp [leads]

namespace ReadAs

variable {q : Query} {level level' : Nat} {lead isOpen isOpen' : Bool}

/-- What is read at a level is read at a looser one. -/
theorem lift (level : Nat) (h : q.ReadAs level lead isOpen) (hle : level ≤ level') (hlow : 2 < level') :
    q.ReadAs level' lead isOpen' := by
  refine ⟨h.proper, ?_, h.leads, fun heq => absurd heq (by omega)⟩
  rcases h.level_le with hlevel | ⟨-, hpipe⟩
  · exact .inl (hlevel.trans hle)
  · exact .inr ⟨hlow, hpipe⟩

theorem isWhole (h : q.ReadAs level false isOpen) : q.IsWhole := by
  refine ⟨h.proper, ?_⟩
  cases hleads : q.leads with
  | false => exact hleads
  | true => exact absurd (h.leads hleads) (by simp)

/-- What is read at the level of a signed term may stand where a term is meant. -/
theorem isTerm (h : q.ReadAs level lead isOpen) (hlevel : level ≤ 4) : q.IsTerm level := by
  rw [IsTerm]
  split
  · next hopen =>
    rcases h.level_le with hle | ⟨-, l, r, rfl⟩
    · have hlow : q.level ≤ 4 := hle.trans hlevel
      cases q with
      | operation op l r =>
        have hprecedence := op.precedence_le
        simp only [Query.level, Operator.level] at hlow
        omega
      | label name body => exact absurd hlow (by simp [Query.level])
      | bind source name body => exact absurd hlow (by simp [Query.level])
      | _ => exact absurd hopen (by simp [Query.isOpen])
    · exact leads_pipe l r
  · next hopen =>
    rcases h.level_le with hle | ⟨-, l, r, rfl⟩
    · exact hle
    · exact absurd rfl hopen

/-- A term that begins with a function name `label` is a call of it. -/
theorem calls_label (h : q.ReadAs level lead isOpen) (hlevel : level ≤ 4) (hleads : q.leads = true) :
    ∃ args, q = call "label" args := by
  cases q with
  | call name args =>
    have hname : name = "label" := by simpa [Query.leads] using hleads
    exact ⟨args, by rw [hname]⟩
  | operation op l r =>
    rcases h.level_le with hle | ⟨-, l, r, heq⟩
    · have hprecedence := op.precedence_le
      simp only [Query.level, Operator.level] at hle
      omega
    · rw [heq, leads_pipe] at hleads
      exact absurd hleads (by simp)
  | _ => exact absurd hleads (by simp [Query.leads])

end ReadAs

end Query

open Query

/-! ### Operations -/

/-- May an operator stand between phrases of two levels in a phrase of a third? -/
def Operator.Joins (op : Operator) (left right level : Nat) : Prop :=
  op.precedence ≠ 0 ∧ left ≤ op.sideLevel true ∧ right ≤ op.sideLevel false ∧ op.level ≤ level

instance (op : Operator) (left right level : Nat) : Decidable (op.Joins left right level) :=
  inferInstanceAs (Decidable (_ ∧ _ ∧ _ ∧ _))

section Operations

variable {op : Operator} {isLeft lead lead' isOpen isOpen' isOpen'' : Bool} {l r q : Query}
  {left right level : Nat}

theorem Operator.sideLevel_le (op : Operator) (isLeft : Bool) : op.sideLevel isLeft ≤ op.level := by
  simp only [sideLevel]
  split <;> omega

/-- An operation that is read at the level of a side needs no parentheses there. -/
theorem needsParens_eq_false {op' : Operator} {l r : Option Query} (hop : op.precedence ≠ 0)
    (h : op'.level ≤ op.sideLevel isLeft) : needsParens op isLeft (operation op' l r) = false := by
  have hle := op.precedence_le
  have hle' := op'.precedence_le
  have hside := op.sideLevel_le isLeft
  have hop' : op'.precedence ≠ 0 := by
    simp only [Operator.level] at h hside
    omega
  rw [needsParens_operation hop']
  simp only [Bool.or_eq_false_iff, Bool.and_eq_false_iff, decide_eq_false_iff_not]
  refine ⟨?_, ?_⟩
  · simp only [Operator.level] at h hside
    omega
  · by_contra hboth
    simp only [not_or, not_not] at hboth
    have hsame : op.sideLevel isLeft = op.level - 1 := by
      rw [Operator.sideLevel, if_pos (by simp [hboth.2])]
    rw [hsame] at h
    simp only [Operator.level] at h
    omega

/-- What is read at the level of a side may be the side. -/
theorem Query.ReadAs.isSide (h : q.ReadAs level lead isOpen) (hop : op.precedence ≠ 0)
    (hlevel : level ≤ op.sideLevel isLeft) (hpipe : op = .pipe → q.leads = false ∨ level ≤ 4) :
    IsSide op isLeft q := by
  have hside := op.sideLevel_le isLeft
  refine ⟨fun hbinder => ?_, fun hleads => ?_, fun heq hleads => ?_⟩
  · have hbound : 13 ≤ op.sideLevel isLeft := by
      rcases h.level_le with hle | ⟨-, l, r, rfl⟩
      · cases q <;> first
          | exact hle.trans hlevel
          | exact absurd hbinder Bool.false_ne_true
      · exact absurd hbinder Bool.false_ne_true
    have hpipe : op = .pipe := by
      have hone : op.precedence = 1 := by
        simp only [Operator.level] at hside
        omega
      cases op <;> first
        | rfl
        | exact absurd hone (by simp [Operator.precedence])
    subst hpipe
    cases isLeft with
    | true => exact absurd hbound (by decide)
    | false => exact ⟨rfl, rfl⟩
  · cases q with
    | operation op' l r =>
      rcases h.level_le with hle | ⟨-, l, r, heq⟩
      · exact needsParens_eq_false hop (hle.trans hlevel)
      · rw [heq, leads_pipe] at hleads
        exact absurd hleads (by simp)
    | _ => rfl
  · rcases hpipe heq with hnot | hlow
    · exact absurd (hnot.symm.trans hleads) (by simp)
    · exact h.calls_label hlow hleads

/-- The left side of a lone operator that was read at its level is no operation of the same level. -/
theorem isGrouped_operation (h : l.ReadAs left lead isOpen) (hleft : left ≤ op.sideLevel true)
    (r : Option Query) :
    (operation op (some l) r).isGrouped = true := by
  cases l with
  | operation op' l' r' =>
    cases hlone : op.isLone with
    | false => simp [isGrouped, hlone]
    | true =>
      have hprecedence := Operator.isLone_iff.mp hlone
      have hne : op'.precedence ≠ op.precedence := by
        rcases h.level_le with hle | ⟨-, l', r', heq⟩
        · have hside : op.sideLevel true = op.level - 1 := by
            rw [Operator.sideLevel, if_pos (by simp [hlone])]
          have hlevel : op'.level ≤ op.level - 1 := hside ▸ hle.trans hleft
          simp only [Operator.level] at hlevel
          omega
        · obtain ⟨rfl, -, -⟩ := operation.inj heq
          have hone : Operator.pipe.precedence = 1 := rfl
          omega
      simp [isGrouped, hne]
  | _ => rfl

/-- Two sides that were read at their levels make an operation that is read at its own. -/
theorem Query.ReadAs.operation (hjoins : op.Joins left right level) (hl : l.ReadAs left lead isOpen)
    (hr : r.ReadAs right lead' isOpen') (hlevel : 2 < level)
    (hpipe : op = .pipe → (l.leads = false ∨ left ≤ 4) ∧ (r.leads = false ∨ right ≤ 4)) :
    (binary op l r).ReadAs level lead isOpen'' := by
  obtain ⟨hop, hleft, hright, hle⟩ := hjoins
  refine ⟨proper_iff.mpr ⟨⟨⟨hop, ?_, ?_⟩, isGrouped_operation hl hleft _⟩, ?_⟩, .inl hle, ?_, ?_⟩
  · exact hl.isSide hop hleft fun heq => (hpipe heq).1
  · exact hr.isSide hop hright fun heq => (hpipe heq).2
  · intro p hp
    simp only [binary, parts, Option.toList_some, List.singleton_append, List.mem_cons,
      List.not_mem_nil, or_false] at hp
    rcases hp with rfl | rfl
    · exact hl.proper
    · exact hr.proper
  · intro hleads
    refine hl.leads ?_
    simp only [binary, Query.leads, Bool.and_eq_true] at hleads
    exact hleads.2
  · exact fun heq => absurd heq (by omega)

/-- The operation of an operator other than the pipe. -/
theorem Query.ReadAs.binary (hjoins : op.Joins left right level) (hl : l.ReadAs left lead isOpen)
    (hr : r.ReadAs right lead' isOpen') (hlow : 2 < level) (hhigh : level < 13) :
    (binary op l r).ReadAs level lead isOpen'' := by
  refine .operation hjoins hl hr hlow fun hpipe => ?_
  subst hpipe
  exact absurd (hjoins.2.2.2.trans_lt hhigh) (by decide)

theorem Operator.joins_assignment (h : op.isAssignment = true) : op.Joins 9 9 10 := by
  cases op <;> first
    | decide
    | exact absurd h Bool.false_ne_true

theorem Operator.joins_comparison (h : op.isComparison = true) : op.Joins 6 6 7 := by
  cases op <;> first
    | decide
    | exact absurd h Bool.false_ne_true

end Operations

/-! ### Suffixes and terms -/

section Terms

variable {lead isOpen isOpen' isOpen'' : Bool} {q subject suffix : Query} {level : Nat}

/-- A pipe may also have been put together from suffixes. -/
theorem Query.ReadAs.chained {l r : Query} (h : (pipe l r).ReadAs 13 lead isOpen)
    (hlevel : 2 < level) : (pipe l r).ReadAs level lead isOpen :=
  ⟨h.proper, .inr ⟨hlevel, _, _, rfl⟩, h.leads, fun heq => absurd heq (by omega)⟩

theorem Query.ReadAs.chain (h : subject.ReadAs 3 lead isOpen) (h' : suffix.ReadAs 3 false true) :
    (chain subject suffix).ReadAs 3 lead isOpen'' := by
  have hlead (hleads : suffix.leads = true) : lead = true := absurd (h'.leads hleads) (by simp)
  have hwhole : (pipe subject suffix).ReadAs 13 lead isOpen'' :=
    .operation (by decide) h h' (by decide) fun _ => ⟨.inr (by decide), .inr (by decide)⟩
  have hpipe : (pipe subject suffix).ReadAs 3 lead isOpen'' := hwhole.chained (by decide)
  cases subject with
  | identity => exact ⟨h'.proper, h'.level_le, hlead, (by simp)⟩
  | _ => exact hpipe

/-- A term that neither begins nor ends in a particular way. -/
theorem Query.ReadAs.term (hregular : q.IsRegular) (hgrouped : q.isGrouped = true)
    (hparts : ∀ p ∈ q.parts, p.Proper) (hlevel : q.level ≤ level) (hleads : q.leads = false)
    (hopen : q.endsOpen = false) : q.ReadAs level lead isOpen :=
  ⟨proper_iff.mpr ⟨⟨hregular, hgrouped⟩, hparts⟩, .inl hlevel, by simp [hleads], by simp [hopen]⟩

theorem Query.ReadAs.leaf (hregular : q.IsRegular) (hgrouped : q.isGrouped = true)
    (hparts : q.parts = []) (hlevel : q.level ≤ level) (hleads : q.leads = false)
    (hopen : q.endsOpen = false) : q.ReadAs level lead isOpen :=
  .term hregular hgrouped (by simp [hparts]) hlevel hleads hopen

/-- What is no term may end in any way. -/
theorem Query.ReadAs.phrase (hregular : q.IsRegular) (hgrouped : q.isGrouped = true)
    (hparts : ∀ p ∈ q.parts, p.Proper) (hlevel : q.level ≤ level) (hleads : q.leads = false)
    (hhigh : 2 < level) : q.ReadAs level lead isOpen :=
  ⟨proper_iff.mpr ⟨⟨hregular, hgrouped⟩, hparts⟩, .inl hlevel, by simp [hleads],
    fun heq => absurd heq (by omega)⟩

end Terms

/-! ### What phrases mean -/

/-- What can be said of an entry that was read. -/
structure Entry.IsRead (e : Entry Query) : Prop where
  value : e.value.Proper
  term : e.value.IsTerm 4
  key : ∀ p ∈ e.keyExpr, p.IsWhole

theorem Query.ReadAs.isRead {value : Query} {lead isOpen : Bool} (h : value.ReadAs 4 lead isOpen)
    (key : Text) {keyExpr : Option Query} (hkey : ∀ p ∈ keyExpr, p.IsWhole) :
    Entry.IsRead ⟨key, value, keyExpr⟩ :=
  ⟨h.proper, h.isTerm (by decide), hkey⟩

/-- What can be said of the meaning of a phrase. -/
def Nonterminal.Holds (lead isOpen : Bool) : (x : Nonterminal) → x.Value → Prop
  | .start, (q : Query) => q.ReadAs 13 false isOpen
  | .pipe, (q : Query) => q.ReadAs 13 false isOpen
  | .comma, (q : Query) => q.ReadAs 12 lead isOpen
  | .alt, (q : Query) => q.ReadAs 11 lead isOpen
  | .assign, (q : Query) => q.ReadAs 10 lead isOpen
  | .orExpr, (q : Query) => q.ReadAs 9 lead isOpen
  | .andExpr, (q : Query) => q.ReadAs 8 lead isOpen
  | .compare, (q : Query) => q.ReadAs 7 lead isOpen
  | .additive, (q : Query) => q.ReadAs 6 lead isOpen
  | .multiplicative, (q : Query) => q.ReadAs 5 lead isOpen
  | .unary, (q : Query) => q.ReadAs 4 lead isOpen
  | .objValue, (q : Query) => q.ReadAs 4 lead isOpen
  | .suffixed, (q : Query) => q.ReadAs 3 lead isOpen
  | .primary, (q : Query) => q.ReadAs 2 lead isOpen
  | .object, (q : Query) => q.ReadAs 2 lead isOpen
  | .assignSym, op => op.Joins 9 9 10
  | .cmpSym, op => op.Joins 6 6 7
  | .addSym, op => op.Joins 6 5 6
  | .mulSym, op => op.Joins 5 4 5
  | .moreArgs, (qs : List Query) => ∀ q ∈ qs, q.IsWhole
  | .elif, (p : Query × Query) => p.1.IsWhole ∧ p.2.IsWhole
  | .elifs, (ps : List (Query × Query)) => ∀ p ∈ ps, p.1.IsWhole ∧ p.2.IsWhole
  | .entry, (e : Entry Query) => e.IsRead
  | .moreEntries, (es : List (Entry Query)) => ∀ e ∈ es, e.IsRead

/-- What can be said of the meaning of a symbol. A name that is the key of an entry may be any. -/
def Symbol.Holds (key lead isOpen : Bool) : (s : Symbol) → s.Value → Prop
  | .t x, (text : Text) => Lexeme.Spelled ⟨x, text⟩ ∧
      (x = .ident → (key = false → text ∉ barred) ∧ (text = "label" → lead = true))
  | .n x, v => x.Holds lead isOpen v

/-- What can be said of the meanings of several symbols. A part before a `catch` does not end with a
`try` that has none. -/
def Symbol.AllHold (key lead isOpen : Bool) : (ss : List Symbol) → Symbol.Values ss → Prop
  | [], _ => True
  | [s], (v, _) => s.Holds key lead isOpen v
  | s :: s' :: ss, (v, vs) =>
    s.Holds key lead (s' ≠ .t .kwCatch) v ∧ AllHold false true isOpen (s' :: ss) vs

/-! ### What productions keep -/

namespace Query

variable {lead lead' isOpen isOpen' : Bool} {q body source init update : Query} {name : Text}

theorem readAs_field (h : Spelling.name? name = some name) {level : Nat} (hlevel : 2 ≤ level) :
    (field name).ReadAs level lead isOpen :=
  .leaf h rfl rfl hlevel rfl rfl

theorem readAs_keyIndex {key : Text} {level : Nat} (hlevel : 2 ≤ level) :
    (keyIndex key).ReadAs level lead isOpen :=
  .leaf trivial rfl rfl hlevel rfl rfl

theorem readAs_var (h : name.isPlainName = true) {level : Nat} (hlevel : 2 ≤ level) :
    (var name).ReadAs level lead isOpen :=
  .leaf h rfl rfl hlevel rfl rfl

theorem IsWhole.some (h : q.IsWhole) : ∀ p ∈ some q, p.IsWhole := by
  intro p hp
  obtain rfl := Option.some.inj hp
  exact h

theorem readAs_array {o : Option Query} (h : ∀ p ∈ o, p.IsWhole) : (array o).ReadAs 2 lead isOpen :=
  .term (fun p hp => (h p hp).pipe) rfl (fun p hp => (h p (Option.mem_toList.mp hp)).proper)
    (Nat.le_refl 2) rfl rfl

theorem readAs_group (h : q.IsWhole) : (group q).ReadAs 2 lead isOpen :=
  .term h.pipe rfl (by simpa [parts] using h.proper) (Nat.le_refl 2) rfl rfl

theorem readAs_negate (h : q.ReadAs 3 lead isOpen) : (unary "-" q).ReadAs 4 lead' isOpen' :=
  .phrase ⟨rfl, h.isTerm (by decide)⟩ rfl (by simpa [parts] using h.proper) (Nat.le_refl 4) rfl
    (by decide)

theorem readAs_label (hname : name.isPlainName = true) (h : q.IsWhole) :
    (label name q).ReadAs 13 lead isOpen :=
  .phrase ⟨hname, h.pipe⟩ rfl (by simpa [parts] using h.proper) (Nat.le_refl 13) rfl (by decide)

theorem readAs_iterate : iterate.ReadAs 3 lead isOpen := by
  have hregular : iterate.IsRegular := fun p hp => absurd hp (by simp)
  exact .leaf hregular rfl rfl (Nat.le_refl 3) rfl rfl

theorem readAs_at (h : q.IsWhole) : (Query.at q).ReadAs 3 lead isOpen := by
  refine .term ?_ rfl (by simpa [Query.at, parts] using h.proper) (Nat.le_refl 3) rfl rfl
  intro p hp
  obtain rfl := Option.some.inj hp
  exact h.pipe

theorem readAs_slice {start stop : Option Query} (h : ∀ p ∈ start, p.IsWhole)
    (h' : ∀ p ∈ stop, p.IsWhole) : (slice start stop).ReadAs 3 lead isOpen := by
  refine .term ⟨fun p hp => (h p hp).pipe, fun p hp => (h' p hp).pipe⟩ rfl ?_ (Nat.le_refl 3) rfl rfl
  intro p hp
  rcases List.mem_append.mp hp with hp | hp
  · exact (h p (Option.mem_toList.mp hp)).proper
  · exact (h' p (Option.mem_toList.mp hp)).proper

/-- A call with arguments. -/
theorem readAs_call {args : List Query} (hname : Spelling.name? name = some name)
    (hbarred : name ∉ barred) (hlead : name = "label" → lead = true) (hne : args ≠ [])
    (hargs : ∀ p ∈ args, p.IsWhole) : (call name args).ReadAs 2 lead isOpen := by
  have hregular : (call name args).IsRegular :=
    ⟨hname, hbarred, fun hnil => absurd hnil hne, fun p hp => (hargs p hp).pipe⟩
  refine ⟨proper_iff.mpr ⟨⟨hregular, rfl⟩, fun p hp => (hargs p hp).proper⟩, .inl (Nat.le_refl 2),
    fun hleads => hlead (by simpa [leads] using hleads), fun _ hopen => ?_⟩
  exact absurd hopen Bool.false_ne_true

/-- A name that stands alone. -/
theorem readAs_ofName (hname : Spelling.name? name = some name) (hbarred : name ∉ barred)
    (hlead : name = "label" → lead = true) : (ofName name).ReadAs 2 lead isOpen := by
  by_cases hnull : name = "null"
  · rw [ofName, if_pos hnull]
    exact .leaf trivial rfl rfl (Nat.le_refl 2) rfl rfl
  · by_cases htrue : name = "true"
    · rw [ofName, if_neg hnull, if_pos htrue]
      exact .leaf trivial rfl rfl (Nat.le_refl 2) rfl rfl
    · by_cases hfalse : name = "false"
      · rw [ofName, if_neg hnull, if_neg htrue, if_pos hfalse]
        exact .leaf trivial rfl rfl (Nat.le_refl 2) rfl rfl
      · have hcall : ofName name = call name [] := by
          rw [ofName, if_neg hnull, if_neg htrue, if_neg hfalse]
        rw [hcall]
        have hregular : (call name []).IsRegular := ⟨hname, hbarred, fun _ => hcall, by simp⟩
        refine ⟨proper_iff.mpr ⟨⟨hregular, rfl⟩, by simp [parts]⟩, .inl (Nat.le_refl 2),
          fun hleads => hlead (by simpa [leads] using hleads), fun _ hopen => ?_⟩
        exact absurd hopen Bool.false_ne_true

theorem readAs_object {entries : List (Entry Query)} (h : ∀ e ∈ entries, e.IsRead) :
    (object entries).ReadAs 2 lead isOpen := by
  refine .term (fun e he => ⟨(h e he).term, fun p hp => ((h e he).key p hp).pipe⟩) rfl ?_
    (Nat.le_refl 2) rfl rfl
  intro p hp
  obtain ⟨e, he, hp⟩ := List.mem_flatMap.mp hp
  rcases List.mem_cons.mp hp with rfl | hp
  · exact (h e he).value
  · exact ((h e he).key p (Option.mem_toList.mp hp)).proper

theorem readAs_cond {test branch : Query} {elifs : List (Query × Query)} {otherwise : Option Query}
    (htest : test.IsWhole) (hbranch : branch.IsWhole)
    (helifs : ∀ p ∈ elifs, p.1.IsWhole ∧ p.2.IsWhole) (hotherwise : ∀ p ∈ otherwise, p.IsWhole) :
    (cond test branch elifs otherwise).ReadAs 2 lead isOpen := by
  refine .term ⟨htest.pipe, hbranch.pipe, fun p hp => ⟨(helifs p hp).1.pipe, (helifs p hp).2.pipe⟩,
    fun p hp => (hotherwise p hp).pipe⟩ rfl ?_ (Nat.le_refl 2) rfl rfl
  simp only [parts, List.cons_append, List.forall_mem_cons, List.forall_mem_append,
    List.forall_mem_flatMap, Option.mem_toList, List.not_mem_nil, false_imp_iff, implies_true,
    and_true]
  exact ⟨htest.proper, hbranch.proper, fun p hp => ⟨(helifs p hp).1.proper, (helifs p hp).2.proper⟩,
    fun p hp => (hotherwise p hp).proper⟩

/-- A term with a question mark after it. -/
theorem readAs_suffixTry (h : body.ReadAs 3 lead isOpen) :
    (attempt body none).ReadAs 3 lead isOpen' := by
  have hlevel : (attempt body none).level ≤ 3 := by
    simp only [level]
    split <;> omega
  refine .phrase ?_ rfl (by simpa [parts] using h.proper) hlevel rfl (by decide)
  show if body.isBracketed then True else IsTerm 2 body
  have hterm := h.isTerm (by decide)
  split
  · trivial
  · next hbracketed =>
    rw [IsTerm] at hterm ⊢
    split at hterm
    · next hopen => rwa [if_pos hopen]
    · next hopen =>
      rw [if_neg hopen]
      cases body with
      | operation op l r => exact absurd rfl hopen
      | label name body => exact absurd rfl hopen
      | bind source name body => exact absurd rfl hopen
      | unary op operand => exact absurd (show 4 ≤ 3 from hterm) (by decide)
      | _ => simp [level, hbracketed]

theorem ReadAs.level_two (h : q.ReadAs 2 lead isOpen) : q.level ≤ 2 :=
  h.level_le.resolve_right fun hpipe => absurd hpipe.1 (by decide)

theorem isBracketed_eq_false (h : q.level ≤ 2) : q.isBracketed = false := by
  cases hbracketed : q.isBracketed with
  | false => rfl
  | true =>
    cases q with
    | index name key e => simp [level, hbracketed] at h
    | slice start stop => simp [level, hbracketed] at h
    | attempt body handler => simp [level, hbracketed] at h
    | _ => exact absurd hbracketed Bool.false_ne_true

theorem readAs_attempt (h : body.ReadAs 2 lead isOpen) :
    (attempt body none).ReadAs 2 lead' true := by
  have hbracketed := isBracketed_eq_false h.level_two
  have hregular : (attempt body none).IsRegular := by
    rw [IsRegular, hbracketed, if_neg Bool.false_ne_true]
    exact h.isTerm (by decide)
  refine ⟨proper_iff.mpr ⟨⟨hregular, rfl⟩, by simpa [parts] using h.proper⟩, .inl ?_,
    fun hleads => absurd hleads Bool.false_ne_true, fun _ _ => rfl⟩
  simp [level, isBracketed, hbracketed]

theorem readAs_attemptCatch {handler : Query} (h : body.ReadAs 2 lead false)
    (h' : handler.ReadAs 2 lead isOpen) : (attempt body (some handler)).ReadAs 2 lead' isOpen := by
  have hends : body.endsOpen = false := by
    cases hopen : body.endsOpen with
    | false => rfl
    | true => exact absurd (h.endsOpen rfl hopen) (by simp)
  refine ⟨proper_iff.mpr ⟨⟨⟨h.isTerm (by decide), fun _ => hends, h'.isTerm (by decide)⟩, rfl⟩, ?_⟩,
    .inl (Nat.le_refl 2), fun hleads => absurd hleads Bool.false_ne_true, fun _ hopen => ?_⟩
  · intro p hp
    simp only [parts, Option.toList_some, List.mem_cons, List.not_mem_nil, or_false] at hp
    rcases hp with rfl | rfl
    · exact h.proper
    · exact h'.proper
  · simp only [Query.endsOpen, Bool.and_eq_true] at hopen
    exact h'.endsOpen rfl hopen.2

theorem readAs_reduce (hsource : source.ReadAs 3 lead isOpen) (hname : name.isPlainName = true)
    (hinit : init.IsWhole) (hupdate : update.IsWhole) :
    (reduce source name init update).ReadAs 2 lead' isOpen' := by
  refine .term ⟨hsource.isTerm (by decide), hname, hinit.pipe, hupdate.pipe⟩ rfl ?_ (Nat.le_refl 2)
    rfl rfl
  simp only [parts, List.forall_mem_cons, List.not_mem_nil, false_imp_iff, implies_true, and_true]
  exact ⟨hsource.proper, hinit.proper, hupdate.proper⟩

theorem readAs_foreach {extract : Option Query} (hsource : source.ReadAs 3 lead isOpen)
    (hname : name.isPlainName = true) (hinit : init.IsWhole) (hupdate : update.IsWhole)
    (hextract : ∀ p ∈ extract, p.IsWhole) :
    (foreach source name init update extract).ReadAs 2 lead' isOpen' := by
  refine .term ⟨hsource.isTerm (by decide), hname, hinit.pipe, hupdate.pipe,
    fun p hp => (hextract p hp).pipe⟩ rfl ?_ (Nat.le_refl 2) rfl rfl
  simp only [parts, List.forall_mem_cons, Option.mem_toList]
  exact ⟨hsource.proper, hinit.proper, hupdate.proper, fun p hp => (hextract p hp).proper⟩

theorem readAs_bind (hsource : source.ReadAs 3 false isOpen) (hname : name.isPlainName = true)
    (hbody : body.IsWhole) : (bind source name body).ReadAs 13 false isOpen' := by
  have hparts : ∀ p ∈ (bind source name body).parts, p.Proper := by
    simp only [parts, List.forall_mem_cons, List.not_mem_nil, false_imp_iff, implies_true, and_true]
    exact ⟨hsource.proper, hbody.proper⟩
  exact .phrase ⟨hsource.isWhole.pipe, hsource.isTerm (by decide), hname, hbody.pipe⟩ rfl hparts
    (Nat.le_refl 13) rfl (by decide)

end Query

open JqFlow.Symbol (AllHold)

/-- What can be said of the parts of a phrase can be said of the phrase. -/
theorem Production.action_holds (p : Production) (vs : Symbol.Values p.rhs) {lead isOpen : Bool}
    (h : AllHold p.namesKey lead isOpen p.rhs vs) (hlead : p.lhs = .pipe → lead = false)
    (hopen : p = .attempt → isOpen = true) : p.lhs.Holds lead isOpen (p.action vs) := by
  cases p with
  | start => exact h
  | pipeOfComma =>
    obtain rfl := hlead rfl
    exact ReadAs.lift 12 h (by decide) (by decide)
  | pipeOp =>
    obtain rfl := hlead rfl
    obtain ⟨a, _, b, ⟨⟩⟩ := vs
    obtain ⟨ha, -, hb⟩ := h
    exact ReadAs.operation (by decide) ha hb (by decide) fun _ =>
      ⟨.inl (ReadAs.isWhole ha).pipe, .inl (ReadAs.isWhole hb).pipe⟩
  | bind =>
    obtain rfl := hlead rfl
    obtain ⟨source, _, name, _, body, ⟨⟩⟩ := vs
    obtain ⟨hsource, -, hname, -, hbody⟩ := h
    exact readAs_bind hsource hname.1 (ReadAs.isWhole hbody)
  | label =>
    obtain ⟨_, name, _, body, ⟨⟩⟩ := vs
    obtain ⟨-, hname, -, hbody⟩ := h
    exact readAs_label hname.1 (ReadAs.isWhole hbody)
  | commaOfAlt => exact ReadAs.lift 11 h (by decide) (by decide)
  | commaOp =>
    obtain ⟨a, _, b, ⟨⟩⟩ := vs
    obtain ⟨ha, -, hb⟩ := h
    exact ReadAs.binary (by decide) ha hb (by decide) (by decide)
  | altOfAssign => exact ReadAs.lift 10 h (by decide) (by decide)
  | altOp =>
    obtain ⟨a, _, b, ⟨⟩⟩ := vs
    obtain ⟨ha, -, hb⟩ := h
    exact ReadAs.binary (by decide) ha hb (by decide) (by decide)
  | assignOfOr => exact ReadAs.lift 9 h (by decide) (by decide)
  | assignOp =>
    obtain ⟨a, op, b, ⟨⟩⟩ := vs
    obtain ⟨ha, hop, hb⟩ := h
    exact ReadAs.binary hop ha hb (by decide) (by decide)
  | orOfAnd => exact ReadAs.lift 8 h (by decide) (by decide)
  | orOp =>
    obtain ⟨a, _, b, ⟨⟩⟩ := vs
    obtain ⟨ha, -, hb⟩ := h
    exact ReadAs.binary (by decide) ha hb (by decide) (by decide)
  | andOfCompare => exact ReadAs.lift 7 h (by decide) (by decide)
  | andOp =>
    obtain ⟨a, _, b, ⟨⟩⟩ := vs
    obtain ⟨ha, -, hb⟩ := h
    exact ReadAs.binary (by decide) ha hb (by decide) (by decide)
  | compareOfAdditive => exact ReadAs.lift 6 h (by decide) (by decide)
  | compareOp =>
    obtain ⟨a, op, b, ⟨⟩⟩ := vs
    obtain ⟨ha, hop, hb⟩ := h
    exact ReadAs.binary hop ha hb (by decide) (by decide)
  | additiveOfMultiplicative => exact ReadAs.lift 5 h (by decide) (by decide)
  | additiveOp =>
    obtain ⟨a, op, b, ⟨⟩⟩ := vs
    obtain ⟨ha, hop, hb⟩ := h
    exact ReadAs.binary hop ha hb (by decide) (by decide)
  | multiplicativeOfUnary => exact ReadAs.lift 4 h (by decide) (by decide)
  | multiplicativeOp =>
    obtain ⟨a, op, b, ⟨⟩⟩ := vs
    obtain ⟨ha, hop, hb⟩ := h
    exact ReadAs.binary hop ha hb (by decide) (by decide)
  | unaryOfSuffixed => exact ReadAs.lift 3 h (by decide) (by decide)
  | negate =>
    obtain ⟨_, q, ⟨⟩⟩ := vs
    obtain ⟨-, hq⟩ := h
    exact readAs_negate hq
  | symAssign | symModify | symUpdateAdd | symUpdateSub | symUpdateMul | symUpdateDiv | symUpdateMod
  | symUpdateAlt => exact Operator.joins_assignment rfl
  | symEq | symNe | symLt | symLe | symGt | symGe => exact Operator.joins_comparison rfl
  | symAdd => exact (show Operator.Joins .add 6 5 6 by decide)
  | symSub => exact (show Operator.Joins .sub 6 5 6 by decide)
  | symMul => exact (show Operator.Joins .mul 5 4 5 by decide)
  | symDiv => exact (show Operator.Joins .div 5 4 5 by decide)
  | symMod => exact (show Operator.Joins .mod 5 4 5 by decide)
  | suffixedOfPrimary => exact ReadAs.lift 2 h (by decide) (by decide)
  | suffixField =>
    obtain ⟨q, name, ⟨⟩⟩ := vs
    obtain ⟨hq, hname⟩ := h
    exact ReadAs.chain hq (readAs_field (Spelling.name?_of_isPlainName hname.1) (by decide))
  | suffixKey =>
    obtain ⟨q, _, key, ⟨⟩⟩ := vs
    exact ReadAs.chain h.1 (readAs_keyIndex (by decide))
  | suffixIterate =>
    obtain ⟨q, _⟩ := vs
    exact ReadAs.chain h.1 readAs_iterate
  | suffixIndex =>
    obtain ⟨q, _, e, _⟩ := vs
    obtain ⟨hq, -, he, -⟩ := h
    exact ReadAs.chain hq (readAs_at (ReadAs.isWhole he))
  | suffixSlice =>
    obtain ⟨q, _, a, _, b, _⟩ := vs
    obtain ⟨hq, -, ha, -, hb, -⟩ := h
    exact ReadAs.chain hq (readAs_slice (ReadAs.isWhole ha).some
      (ReadAs.isWhole hb).some)
  | suffixSliceFrom =>
    obtain ⟨q, _, a, _⟩ := vs
    obtain ⟨hq, -, ha, -⟩ := h
    exact ReadAs.chain hq (readAs_slice (ReadAs.isWhole ha).some (by simp))
  | suffixSliceTo =>
    obtain ⟨q, _, _, b, _⟩ := vs
    obtain ⟨hq, -, -, hb, -⟩ := h
    exact ReadAs.chain hq (readAs_slice (by simp) (ReadAs.isWhole hb).some)
  | suffixSliceAll =>
    obtain ⟨q, _⟩ := vs
    exact ReadAs.chain h.1 (readAs_slice (by simp) (by simp))
  | suffixTry =>
    obtain ⟨q, _⟩ := vs
    exact readAs_suffixTry h.1
  | identity => exact .leaf trivial rfl rfl (Nat.le_refl 2) rfl rfl
  | recurse => exact .leaf trivial rfl rfl (Nat.le_refl 2) rfl rfl
  | field =>
    obtain ⟨name, ⟨⟩⟩ := vs
    exact readAs_field (Spelling.name?_of_isPlainName h.1) (Nat.le_refl 2)
  | quotedField =>
    obtain ⟨_, key, ⟨⟩⟩ := vs
    exact readAs_keyIndex (Nat.le_refl 2)
  | number =>
    obtain ⟨text, ⟨⟩⟩ := vs
    exact .leaf h.1 rfl rfl (Nat.le_refl 2) rfl rfl
  | string =>
    obtain ⟨text, ⟨⟩⟩ := vs
    exact .leaf trivial rfl rfl (Nat.le_refl 2) rfl rfl
  | format =>
    obtain ⟨name, ⟨⟩⟩ := vs
    exact .leaf h.1 rfl rfl (Nat.le_refl 2) rfl rfl
  | formatString =>
    obtain ⟨name, text, ⟨⟩⟩ := vs
    exact .leaf h.1.1 rfl rfl (Nat.le_refl 2) rfl rfl
  | varRef =>
    obtain ⟨name, ⟨⟩⟩ := vs
    exact readAs_var h.1 (Nat.le_refl 2)
  | group =>
    obtain ⟨_, q, _⟩ := vs
    obtain ⟨-, hq, -⟩ := h
    exact readAs_group (ReadAs.isWhole hq)
  | arrayEmpty => exact readAs_array (by simp)
  | array =>
    obtain ⟨_, q, _⟩ := vs
    obtain ⟨-, hq, -⟩ := h
    exact readAs_array (ReadAs.isWhole hq).some
  | primaryOfObject => exact h
  | bareName =>
    obtain ⟨name, ⟨⟩⟩ := vs
    obtain ⟨hspelled, hname⟩ := h
    exact readAs_ofName hspelled ((hname rfl).1 rfl) (hname rfl).2
  | call =>
    obtain ⟨name, _, arg, _⟩ := vs
    obtain ⟨⟨hspelled, hname⟩, -, harg, -⟩ := h
    refine readAs_call hspelled ((hname rfl).1 rfl) (hname rfl).2 (List.cons_ne_nil _ _) ?_
    exact List.forall_mem_singleton.mpr (ReadAs.isWhole harg)
  | callMore =>
    obtain ⟨name, _, arg, args, _⟩ := vs
    obtain ⟨⟨hspelled, hname⟩, -, harg, hargs, -⟩ := h
    refine readAs_call hspelled ((hname rfl).1 rfl) (hname rfl).2 (List.cons_ne_nil _ _) ?_
    exact List.forall_mem_cons.mpr ⟨ReadAs.isWhole harg, hargs⟩
  | condThen =>
    obtain ⟨_, test, _, branch, _⟩ := vs
    obtain ⟨-, htest, -, hbranch, -⟩ := h
    exact readAs_cond (ReadAs.isWhole htest) (ReadAs.isWhole hbranch) (by simp) (by simp)
  | condElse =>
    obtain ⟨_, test, _, branch, _, otherwise, _⟩ := vs
    obtain ⟨-, htest, -, hbranch, -, hotherwise, -⟩ := h
    exact readAs_cond (ReadAs.isWhole htest) (ReadAs.isWhole hbranch) (by simp)
      (ReadAs.isWhole hotherwise).some
  | condElif =>
    obtain ⟨_, test, _, branch, elifs, _⟩ := vs
    obtain ⟨-, htest, -, hbranch, helifs, -⟩ := h
    exact readAs_cond (ReadAs.isWhole htest) (ReadAs.isWhole hbranch) helifs (by simp)
  | condElifElse =>
    obtain ⟨_, test, _, branch, elifs, _, otherwise, _⟩ := vs
    obtain ⟨-, htest, -, hbranch, helifs, -, hotherwise, -⟩ := h
    exact readAs_cond (ReadAs.isWhole htest) (ReadAs.isWhole hbranch) helifs
      (ReadAs.isWhole hotherwise).some
  | attempt =>
    obtain rfl := hopen rfl
    obtain ⟨_, body, ⟨⟩⟩ := vs
    obtain ⟨-, hbody⟩ := h
    exact readAs_attempt hbody
  | attemptCatch =>
    obtain ⟨_, body, _, handler, ⟨⟩⟩ := vs
    obtain ⟨-, hbody, -, hhandler⟩ := h
    exact readAs_attemptCatch hbody hhandler
  | reduce =>
    obtain ⟨_, source, _, name, _, init, _, update, _⟩ := vs
    obtain ⟨-, hsource, -, hname, -, hinit, -, hupdate, -⟩ := h
    exact readAs_reduce hsource hname.1 (ReadAs.isWhole hinit) (ReadAs.isWhole hupdate)
  | foreach =>
    obtain ⟨_, source, _, name, _, init, _, update, _⟩ := vs
    obtain ⟨-, hsource, -, hname, -, hinit, -, hupdate, -⟩ := h
    exact readAs_foreach hsource hname.1 (ReadAs.isWhole hinit) (ReadAs.isWhole hupdate) (by simp)
  | foreachExtract =>
    obtain ⟨_, source, _, name, _, init, _, update, _, extract, _⟩ := vs
    obtain ⟨-, hsource, -, hname, -, hinit, -, hupdate, -, hextract, -⟩ := h
    exact readAs_foreach hsource hname.1 (ReadAs.isWhole hinit) (ReadAs.isWhole hupdate)
      (ReadAs.isWhole hextract).some
  | breakTo =>
    obtain ⟨_, name, ⟨⟩⟩ := vs
    obtain ⟨-, hname⟩ := h
    exact .leaf hname.1 rfl rfl (Nat.le_refl 2) rfl rfl
  | argsOne =>
    obtain ⟨_, q, ⟨⟩⟩ := vs
    obtain ⟨-, hq⟩ := h
    exact List.forall_mem_singleton.mpr (ReadAs.isWhole hq)
  | argsMore =>
    obtain ⟨qs, _, q, ⟨⟩⟩ := vs
    obtain ⟨hqs, -, hq⟩ := h
    exact List.forall_mem_append.mpr ⟨hqs, List.forall_mem_singleton.mpr (ReadAs.isWhole hq)⟩
  | elifsOne =>
    obtain ⟨e, ⟨⟩⟩ := vs
    exact List.forall_mem_singleton.mpr h
  | elifsMore =>
    obtain ⟨es, e, ⟨⟩⟩ := vs
    obtain ⟨hes, he⟩ := h
    exact List.forall_mem_append.mpr ⟨hes, List.forall_mem_singleton.mpr he⟩
  | elifBranch =>
    obtain ⟨_, test, _, branch, ⟨⟩⟩ := vs
    obtain ⟨-, htest, -, hbranch⟩ := h
    exact ⟨ReadAs.isWhole htest, ReadAs.isWhole hbranch⟩
  | objectEmpty => exact readAs_object (by simp)
  | objectOne =>
    obtain ⟨_, e, _⟩ := vs
    obtain ⟨-, he, -⟩ := h
    exact readAs_object (List.forall_mem_singleton.mpr he)
  | objectMore =>
    obtain ⟨_, e, es, _⟩ := vs
    obtain ⟨-, he, hes, -⟩ := h
    exact readAs_object (List.forall_mem_cons.mpr ⟨he, hes⟩)
  | entriesOne =>
    obtain ⟨_, e, ⟨⟩⟩ := vs
    obtain ⟨-, he⟩ := h
    exact List.forall_mem_singleton.mpr he
  | entriesMore =>
    obtain ⟨es, _, e, ⟨⟩⟩ := vs
    obtain ⟨hes, -, he⟩ := h
    exact List.forall_mem_append.mpr ⟨hes, List.forall_mem_singleton.mpr he⟩
  | entryName =>
    obtain ⟨key, _, value, ⟨⟩⟩ := vs
    obtain ⟨-, -, hvalue⟩ := h
    exact ReadAs.isRead hvalue key (by simp)
  | entryString =>
    obtain ⟨key, _, value, ⟨⟩⟩ := vs
    obtain ⟨-, -, hvalue⟩ := h
    exact ReadAs.isRead hvalue _ (by simp)
  | entryComputed =>
    obtain ⟨_, key, _, _, value, ⟨⟩⟩ := vs
    obtain ⟨-, hkey, -, -, hvalue⟩ := h
    exact ReadAs.isRead hvalue _ (ReadAs.isWhole hkey).some
  | entryField =>
    obtain ⟨name, ⟨⟩⟩ := vs
    have hvalue : (Query.field name).ReadAs 4 true true := readAs_field h.1 (by decide)
    exact hvalue.isRead name (by simp)
  | entryKey =>
    obtain ⟨key, ⟨⟩⟩ := vs
    have hvalue : (keyIndex (Quoted.unquote key)).ReadAs 4 true true := readAs_keyIndex (by decide)
    exact hvalue.isRead _ (by simp)
  | entryVariable =>
    obtain ⟨name, ⟨⟩⟩ := vs
    have hvalue : (var (name.drop 1)).ReadAs 4 true true := readAs_var h.1 (by decide)
    exact hvalue.isRead _ (by simp)
  | valueOfUnary => exact h
  | valuePipe =>
    obtain ⟨a, _, b, ⟨⟩⟩ := vs
    obtain ⟨ha, -, hb⟩ := h
    have hpipe : (pipe a b).ReadAs 13 lead isOpen :=
      ReadAs.operation (by decide) ha hb (by decide) fun _ => ⟨.inr (by decide), .inr (by decide)⟩
    exact hpipe.chained (by decide)

/-! ### What derivations mean -/

theorem Nonterminal.holds_pipe {x : Nonterminal} (hx : x = .pipe) {lead lead' isOpen : Bool}
    {v : x.Value} (h : x.Holds lead isOpen v) : x.Holds lead' isOpen v := by
  subst hx
  exact h

mutual

/-- What can be said of the meaning of a derivation that a run can come to. -/
theorem Derivation.holds {s : Symbol} (d : Derivation s) (h : d.Sound) {lead isOpen : Bool}
    (hlead : d.leads = true → lead = true) (hopen : d.endsOpen = true → isOpen = true) :
    s.Holds false lead isOpen d.eval := by
  match d with
  | .leaf x text =>
    refine ⟨h.spelled, fun hident => ⟨fun _ => h.worded hident, fun hlabel => hlead ?_⟩⟩
    have hlabel : text = "label" := hlabel
    simp [Derivation.leads, Derivation.yield, Lexeme.isLabel, hident, hlabel]
  | .node p children =>
    obtain ⟨hworded, hpipe⟩ := h.worded
    have hchildren {lead : Bool} (hlead : children.yield.head?.any Lexeme.isLabel = true →
        lead = true) : AllHold p.namesKey lead isOpen p.rhs children.eval := by
      refine children.holds h.spelled h.nearest hworded ?_ hlead fun hends => hopen ?_
      · exact fun hkey => (Production.key_of_namesKey hkey).2
      · simp [Derivation.endsOpen, hends]
    have hattempt (hp : p = .attempt) : isOpen = true := hopen (by simp [Derivation.endsOpen, hp])
    by_cases hlhs : p.lhs = .pipe
    · have hnot : AllHold p.namesKey false isOpen p.rhs children.eval :=
        hchildren fun hlabel => (hpipe hlhs).symm.trans hlabel
      exact Nonterminal.holds_pipe hlhs (p.action_holds _ hnot (fun _ => rfl) hattempt)
    · exact p.action_holds _ (hchildren hlead) (fun hp => absurd hp hlhs) hattempt

theorem Forest.holds {ss : List Symbol} (f : Forest ss) {key : Bool} (hspelled : f.Spelled)
    (hnearest : f.Nearest) (hworded : f.Worded key)
    (hkey : key = true → ss.head? = some (.t .ident)) {lead isOpen : Bool}
    (hlead : f.yield.head?.any Lexeme.isLabel = true → lead = true)
    (hopen : f.endsOpen = true → isOpen = true) : AllHold key lead isOpen ss f.eval := by
  match f with
  | .nil => trivial
  | @Forest.cons s ss first rest =>
    rw [Forest.head_yield_cons] at hlead
    have hfirst {isOpen' : Bool} (hopen' : first.endsOpen = true → isOpen' = true) :
        s.Holds key lead isOpen' first.eval := by
      cases key with
      | false =>
        exact first.holds ⟨hspelled.1, hnearest.1, hworded.1.resolve_left (by simp)⟩ hlead hopen'
      | true =>
        -- The first of them is the key of an entry.
        obtain rfl : s = .t .ident := Option.some.inj (hkey rfl)
        cases first with
        | leaf x text =>
          refine ⟨hspelled.1, fun _ => ⟨(by simp), fun hlabel => hlead ?_⟩⟩
          have hlabel : text = "label" := hlabel
          simp [Derivation.yield, Lexeme.isLabel, hlabel]
    cases rest with
    | nil => exact hfirst hopen
    | @cons s' ss second rest =>
      refine ⟨hfirst fun hends => ?_, ?_⟩
      · have hnot := hnearest.2.1 hends
        refine decide_eq_true fun heq => hnot ?_
        rw [heq]
        exact List.mem_singleton.mpr rfl
      · exact (Forest.cons second rest).holds hspelled.2 hnearest.2.2 hworded.2 (by simp)
          (fun _ => rfl) hopen

end

/-- A query that is read may stand alone, and each part of it is regular and grouped as the grammar
groups it. -/
theorem isWhole_of_parse {t : Text} {q : Query} (h : parse t = .ok q) : q.IsWhole := by
  rw [parse] at h
  split at h
  · exact absurd h (by simp)
  · cases hd : derive t with
    | error e => simp [hd, Except.map] at h
    | ok d =>
      rw [hd] at h
      obtain rfl := Except.ok.inj h
      have hholds := d.holds (derive_sound hd) (fun _ => rfl) fun _ => rfl
      exact ReadAs.isWhole hholds

end JqFlow
