import JqFlow.Proofs.Reading.Phrases

/-!
# Levels of phrases

The phrases that mean queries stand one above the other, from terms up to pipes, and what is read at
one level is read at every looser one. Operators join what is read at their sides' levels.

## Main definitions

- `ReadsAt`: a text is read at a level
- `Operator.level`, `Operator.sideLevel`: where an operator stands, and where its sides do

## Main statements

- `ReadsAt.lift`: what is read at a level is read at a looser one
- `reads_binary`: two sides with an operator between them
-/

namespace JqFlow

open Text (Closes)

namespace Text

theorem closes_of_mem {c : CodePoint} {t : Text} (h : c ∈ closers) (hcolon : c ≠ .scalar ':')
    (hblank : c ≠ .scalar ' ') : Closes (c :: t) :=
  ⟨h, fun heq => absurd heq hcolon, fun heq => absurd heq hblank⟩

theorem breaks_blank {t : Text} : Breaks (.scalar ' ' :: t) :=
  ⟨by decide, fun heq => absurd heq (by decide)⟩

theorem closes_blank {d : CodePoint} {t : Text} (h : followsBlank d = true) :
    Closes (.scalar ' ' :: d :: t) :=
  ⟨by decide, fun heq => absurd heq (by decide), fun _ => ⟨d, rfl, h⟩⟩

end Text

/-- The text is read at a level: as a term at 2, and more loosely up to a pipe at 13. -/
def ReadsAt (level : Nat) (lead isOpen : Bool) (t : Text) (o : Option Query) : Prop :=
  match level with
  | 2 => Reads (.n .primary) Closes lead isOpen t o
  | 3 => Reads (.n .suffixed) Closes lead isOpen t o
  | 4 => Reads (.n .unary) Closes lead isOpen t o
  | 5 => Reads (.n .multiplicative) Closes lead isOpen t o
  | 6 => Reads (.n .additive) Closes lead isOpen t o
  | 7 => Reads (.n .compare) Closes lead isOpen t o
  | 8 => Reads (.n .andExpr) Closes lead isOpen t o
  | 9 => Reads (.n .orExpr) Closes lead isOpen t o
  | 10 => Reads (.n .assign) Closes lead isOpen t o
  | 11 => Reads (.n .alt) Closes lead isOpen t o
  | 12 => Reads (.n .comma) Closes lead isOpen t o
  | 13 => Reads (.n .pipe) Closes lead isOpen t o
  | _ => False

/-- A phrase that is all a production derives. -/
theorem Reads.alone {x : Nonterminal} {lead isOpen : Bool} {t : Text}
    {o : Option (Symbol.n x).Value} (h : Reads (.n x) Closes lead isOpen t o) (hx : x ≠ .start) :
    ReadsAll [.n x] lead isOpen t (o.map fun v => (v, ())) := by
  have hall := ReadsAll.cons h ReadsRest.nil (by simpa using hx) (fun r hr => hr)
    (fun hmem => absurd hmem List.not_mem_nil)
  rw [List.append_nil] at hall
  cases o with
  | none => exact hall
  | some v => exact hall

section Lift

variable {lead isOpen : Bool} {t : Text} {o : Option Query}

theorem ReadsAt.step {level : Nat} (hlow : 2 ≤ level) (hhigh : level < 12)
    (h : ReadsAt level lead isOpen t o) : ReadsAt (level + 1) lead isOpen t o := by
  obtain rfl | rfl | rfl | rfl | rfl | rfl | rfl | rfl | rfl | rfl : level = 2 ∨ level = 3 ∨
      level = 4 ∨ level = 5 ∨ level = 6 ∨ level = 7 ∨ level = 8 ∨ level = 9 ∨ level = 10 ∨
      level = 11 := by
    omega
  · have h : Reads (.n .primary) Closes lead isOpen t o := h
    cases o <;> exact Reads.node .suffixedOfPrimary (h.alone (by decide)) rfl (.inl (by decide))
  · have h : Reads (.n .suffixed) Closes lead isOpen t o := h
    cases o <;> exact Reads.node .unaryOfSuffixed (h.alone (by decide)) rfl (.inl (by decide))
  · have h : Reads (.n .unary) Closes lead isOpen t o := h
    cases o <;> exact Reads.node .multiplicativeOfUnary (h.alone (by decide)) rfl (.inl (by decide))
  · have h : Reads (.n .multiplicative) Closes lead isOpen t o := h
    cases o <;> exact Reads.node .additiveOfMultiplicative (h.alone (by decide)) rfl (.inl (by decide))
  · have h : Reads (.n .additive) Closes lead isOpen t o := h
    cases o <;> exact Reads.node .compareOfAdditive (h.alone (by decide)) rfl (.inl (by decide))
  · have h : Reads (.n .compare) Closes lead isOpen t o := h
    cases o <;> exact Reads.node .andOfCompare (h.alone (by decide)) rfl (.inl (by decide))
  · have h : Reads (.n .andExpr) Closes lead isOpen t o := h
    cases o <;> exact Reads.node .orOfAnd (h.alone (by decide)) rfl (.inl (by decide))
  · have h : Reads (.n .orExpr) Closes lead isOpen t o := h
    cases o <;> exact Reads.node .assignOfOr (h.alone (by decide)) rfl (.inl (by decide))
  · have h : Reads (.n .assign) Closes lead isOpen t o := h
    cases o <;> exact Reads.node .altOfAssign (h.alone (by decide)) rfl (.inl (by decide))
  · have h : Reads (.n .alt) Closes lead isOpen t o := h
    cases o <;> exact Reads.node .commaOfAlt (h.alone (by decide)) rfl (.inl (by decide))

/-- A pipe does not begin with a function name `label`. -/
theorem ReadsAt.pipe (h : ReadsAt 12 lead isOpen t o) (hlead : lead = false) :
    ReadsAt 13 lead isOpen t o := by
  have h : Reads (.n .comma) Closes lead isOpen t o := h
  cases o <;> exact Reads.node .pipeOfComma (h.alone (by decide)) rfl (.inr hlead)

/-- What is read at a level is read at a looser one. -/
theorem ReadsAt.lift {level level' : Nat} (h : ReadsAt level lead isOpen t o) (hlow : 2 ≤ level)
    (hle : level ≤ level') (hhigh : level' ≤ 13) (hlead : level' = 13 → lead = false) :
    ReadsAt level' lead isOpen t o := by
  induction level', hle using Nat.le_induction with
  | base => exact h
  | succ k hk ih =>
    have hat := ih (by omega) (by omega)
    by_cases hpipe : k = 12
    · subst hpipe
      exact hat.pipe (hlead rfl)
    · exact hat.step (by omega) (by omega)

theorem ReadsAt.mono {level : Nat} {lead' isOpen' : Bool} (h : ReadsAt level lead isOpen t o)
    (hlead : lead = true → lead' = true) (hopen : isOpen = true → isOpen' = true) :
    ReadsAt level lead' isOpen' t o := by
  unfold ReadsAt at h ⊢
  split at h <;> first
    | exact Reads.mono h hlead hopen
    | exact h

theorem ReadsAt.opened {level : Nat} (h : ReadsAt level lead isOpen t o) :
    ReadsAt level lead true t o :=
  h.mono id fun _ => rfl

theorem ReadsAt.bounds {level : Nat} (h : ReadsAt level lead isOpen t o) :
    2 ≤ level ∧ level ≤ 13 := by
  unfold ReadsAt at h
  split at h <;> first
    | exact absurd h id
    | omega

/-- What is read of a text, at whatever level, is the query of the text. -/
theorem ReadsAt.parse_eq {level : Nat} {q : Query} (h : ReadsAt level false isOpen t (some q)) :
    Query.parse t = .ok q := by
  have hpipe := h.lift h.bounds.1 h.bounds.2 (Nat.le_refl 13) fun _ => rfl
  exact Query.parse_eq_ok_iff_toOption.mpr (parse_of_reads hpipe)

theorem ReadsAt.append_none {level : Nat} {u : Text} (h : ReadsAt level lead isOpen t none)
    (hu : ∀ r, Closes r → Closes (u ++ r)) : ReadsAt level lead isOpen (t ++ u) none := by
  unfold ReadsAt at h ⊢
  split at h <;> first
    | exact Reads.append_none h hu
    | exact h

end Lift

/-! ### Operators -/

namespace Operator

/-- The level of the operations of an operator. -/
def level (op : Operator) : Nat :=
  14 - op.precedence

/-- Can an operation of this operator be no side of another on the same level, unless it is in
parentheses? -/
def isLone (op : Operator) : Bool :=
  op.isComparison || op.isAssignment

/-- The level of a side of an operation. -/
def sideLevel (op : Operator) (isLeft : Bool) : Nat :=
  if op.isLone || isLeft = op.isRightAssociative then op.level - 1 else op.level

/-- What stands between the sides of an operation. -/
def joint : Operator → Text
  | comma => ", "
  | op => " " ++ op.symbol?.getD [] ++ " "

end Operator

/-- A token with a blank after it may come before anything. -/
theorem reads_spaced {l : Lexeme} (hl : ∀ r, l.Stands (.scalar ' ' :: r))
    (hident : l.terminal ≠ .ident) :
    Reads (.t l.terminal) (fun _ => True) false false (l.text ++ " ") (some l.text) := by
  refine ⟨.leaf l.terminal l.text, rfl, ⟨trivial, fun h => absurd h hident, ?_, ?_⟩, ?_⟩
  · simp [Derivation.leads, Derivation.yield, Lexeme.isLabel, hident]
  · simp [Derivation.endsOpen]
  · intro r _
    rw [List.append_assoc]
    exact .word (hl r) (.blank (by decide) (.nil r))

theorem Forest.single {ss : List Symbol} {k : Terminal} (hss : ss = [.t k]) (hk : k ≠ .ident)
    (f : Forest ss) (key : Bool) : f.Nearest ∧ f.Worded key ∧ f.endsOpen = false := by
  subst hss
  match f with
  | .cons (.leaf _ _) .nil =>
    exact ⟨⟨trivial, fun h => absurd h Bool.false_ne_true, trivial⟩,
      ⟨.inr fun h => absurd h hk, trivial⟩, rfl⟩

/-- A sign that a production derives, with a blank after it. -/
theorem reads_sign {p : Production} {k : Terminal} (hk : k ∈ Terminal.signs)
    (hrhs : p.rhs = [.t k]) (hpipe : p.lhs ≠ .pipe) (f : Forest p.rhs)
    (hyield : f.yield = [Lexeme.of k]) :
    Reads (.n p.lhs) (fun _ => True) false false ((Lexeme.of k).text ++ " ")
      (some (p.action f.eval)) := by
  have hident : k ≠ .ident := by
    rintro rfl
    exact absurd hk (by decide)
  have hattempt : p ≠ .attempt := by
    rintro rfl
    exact absurd hrhs (by simp [Production.rhs, Production.rule])
  obtain ⟨hnearest, hworded, hopen⟩ := Forest.single hrhs hident f p.namesKey
  refine ⟨.node p f, rfl, ⟨hnearest, ⟨hworded, fun h => absurd h hpipe⟩, ?_, ?_⟩, ?_⟩
  · simp [Derivation.leads, Derivation.yield, hyield, Lexeme.isLabel, Lexeme.of, hident]
  · simp [Derivation.endsOpen, hattempt, hopen]
  · intro r _
    rw [List.append_assoc, Derivation.yield, hyield]
    exact .word (Lexeme.stands_sign hk r) (.blank (by decide) (.nil r))

theorem reads_assignSym {op : Operator} (h : op.isAssignment = true) :
    Reads (.n .assignSym) (fun _ => True) false false op.joint (some op) := by
  cases op <;> first
    | exact absurd h Bool.false_ne_true
    | refine Reads.blank ?_
  case assign =>
    exact reads_sign (p := .symAssign) (by decide) rfl (by decide) (.cons (.leaf _ "=") .nil) rfl
  case modify =>
    exact reads_sign (p := .symModify) (by decide) rfl (by decide) (.cons (.leaf _ "|=") .nil) rfl
  case updateAdd =>
    exact reads_sign (p := .symUpdateAdd) (by decide) rfl (by decide) (.cons (.leaf _ "+=") .nil) rfl
  case updateSub =>
    exact reads_sign (p := .symUpdateSub) (by decide) rfl (by decide) (.cons (.leaf _ "-=") .nil) rfl
  case updateMul =>
    exact reads_sign (p := .symUpdateMul) (by decide) rfl (by decide) (.cons (.leaf _ "*=") .nil) rfl
  case updateDiv =>
    exact reads_sign (p := .symUpdateDiv) (by decide) rfl (by decide) (.cons (.leaf _ "/=") .nil) rfl
  case updateMod =>
    exact reads_sign (p := .symUpdateMod) (by decide) rfl (by decide) (.cons (.leaf _ "%=") .nil) rfl
  case updateAlt =>
    exact reads_sign (p := .symUpdateAlt) (by decide) rfl (by decide) (.cons (.leaf _ "//=") .nil) rfl

theorem reads_cmpSym {op : Operator} (h : op.isComparison = true) :
    Reads (.n .cmpSym) (fun _ => True) false false op.joint (some op) := by
  cases op <;> first
    | exact absurd h Bool.false_ne_true
    | refine Reads.blank ?_
  case eq =>
    exact reads_sign (p := .symEq) (by decide) rfl (by decide) (.cons (.leaf _ "==") .nil) rfl
  case ne =>
    exact reads_sign (p := .symNe) (by decide) rfl (by decide) (.cons (.leaf _ "!=") .nil) rfl
  case gt =>
    exact reads_sign (p := .symGt) (by decide) rfl (by decide) (.cons (.leaf _ ">") .nil) rfl
  case lt =>
    exact reads_sign (p := .symLt) (by decide) rfl (by decide) (.cons (.leaf _ "<") .nil) rfl
  case ge =>
    exact reads_sign (p := .symGe) (by decide) rfl (by decide) (.cons (.leaf _ ">=") .nil) rfl
  case le =>
    exact reads_sign (p := .symLe) (by decide) rfl (by decide) (.cons (.leaf _ "<=") .nil) rfl

theorem reads_addSym {op : Operator} (h : op = .add ∨ op = .sub) :
    Reads (.n .addSym) (fun _ => True) false false op.joint (some op) := by
  rcases h with rfl | rfl <;> refine Reads.blank ?_
  · exact reads_sign (p := .symAdd) (by decide) rfl (by decide) (.cons (.leaf _ "+") .nil) rfl
  · exact reads_sign (p := .symSub) (by decide) rfl (by decide) (.cons (.leaf _ "-") .nil) rfl

theorem reads_mulSym {op : Operator} (h : op = .mul ∨ op = .div ∨ op = .mod) :
    Reads (.n .mulSym) (fun _ => True) false false op.joint (some op) := by
  rcases h with rfl | rfl | rfl <;> refine Reads.blank ?_
  · exact reads_sign (p := .symMul) (by decide) rfl (by decide) (.cons (.leaf _ "*") .nil) rfl
  · exact reads_sign (p := .symDiv) (by decide) rfl (by decide) (.cons (.leaf _ "/") .nil) rfl
  · exact reads_sign (p := .symMod) (by decide) rfl (by decide) (.cons (.leaf _ "%") .nil) rfl

theorem Operator.closes_joint {op : Operator} (h : op.precedence ≠ 0) (t : Text) :
    Closes (op.joint ++ t) := by
  cases op with
  | noop => exact absurd rfl h
  | other name => exact absurd rfl h
  | comma => exact Text.closes_of_mem (by decide) (by decide) (by decide)
  | _ => exact Text.closes_blank (by decide)

section Sides

variable {x y : Nonterminal} {s : Symbol} {v : s.Value} {lead lead' isOpen isOpen' : Bool}
  {l r u : Text} {ol : Option (Symbol.n x).Value} {or : Option (Symbol.n y).Value}

/-- Two phrases with something between them. -/
theorem Reads.infix (hl : Reads (.n x) Closes lead isOpen l ol)
    (hs : Reads s (fun _ => True) false false u (some v))
    (hr : Reads (.n y) Closes lead' isOpen' r or) (hstart : x ≠ .start ∧ s ≠ .n .start ∧ y ≠ .start)
    (hu : ∀ t, Closes (u ++ t)) (hcatch : .kwCatch ∉ s.first) (hlead : lead' = true → y ≠ .pipe) :
    ReadsAll [.n x, s, .n y] lead isOpen' (l ++ u ++ r)
      ((both ol or).map fun p => (p.1, v, p.2, ())) := by
  have hright := ReadsRest.cons hr .nil (by simpa using hstart.2.2) (fun _ ht => ht)
    (fun hmem => absurd hmem List.not_mem_nil) (fun h => ⟨y, rfl, hlead h⟩)
  have hrest := ReadsRest.cons hs hright hstart.2.1 (fun _ _ => trivial) (fun _ => rfl) (by simp)
  have hall := ReadsAll.cons hl hrest (by simpa using hstart.1)
    (fun t _ => by rw [List.append_assoc]; exact hu _) (fun hmem => absurd hmem hcatch)
  rw [List.append_nil] at hall
  rw [List.append_assoc]
  cases ol <;> cases or <;> exact hall

end Sides

section Binary

variable {op : Operator} {lead lead' isOpen isOpen' : Bool} {l r : Text} {ol or : Option Query}

/-- Two sides with an operator between them, each read at its level. A pipe has no side that begins
with a function name `label`. -/
theorem reads_binary (hop : op.precedence ≠ 0) (hl : ReadsAt (op.sideLevel true) lead isOpen l ol)
    (hr : ReadsAt (op.sideLevel false) lead' isOpen' r or)
    (hpipe : op = .pipe → lead = false ∧ lead' = false) :
    ReadsAt op.level lead isOpen' (l ++ op.joint ++ r)
      ((both ol or).map fun p => .binary op p.1 p.2) := by
  have hu := Operator.closes_joint hop
  cases op with
  | noop => exact absurd rfl hop
  | other name => exact absurd rfl hop
  | pipe =>
    have hl : Reads (.n .comma) Closes lead isOpen l ol := hl
    have hr : Reads (.n .pipe) Closes lead' isOpen' r or := hr
    have hs : Reads (.t .bar) (fun _ => True) false false (Operator.joint .pipe)
        (some (Lexeme.of .bar).text) :=
      (reads_spaced (Lexeme.stands_sign (by decide)) (by decide)).blank
    have hall := hl.infix hs hr (by decide) hu (by decide) (by simp [(hpipe rfl).2])
    cases ol <;> cases or <;> exact Reads.node .pipeOp hall rfl (.inr (hpipe rfl).1)
  | comma =>
    have hl : Reads (.n .comma) Closes lead isOpen l ol := hl
    have hr : Reads (.n .alt) Closes lead' isOpen' r or := hr
    have hs : Reads (.t .comma) (fun _ => True) false false (Operator.joint .comma)
        (some (Lexeme.of .comma).text) :=
      reads_spaced (fun r => Lexeme.stands_bracket (by decide) _) (by decide)
    have hall := hl.infix hs hr (by decide) hu (by decide) (by simp)
    cases ol <;> cases or <;> exact Reads.node .commaOp hall rfl (.inl (by decide))
  | alt =>
    have hl : Reads (.n .assign) Closes lead isOpen l ol := hl
    have hr : Reads (.n .alt) Closes lead' isOpen' r or := hr
    have hs : Reads (.t .slashSlash) (fun _ => True) false false (Operator.joint .alt)
        (some (Lexeme.of .slashSlash).text) :=
      (reads_spaced (Lexeme.stands_sign (by decide)) (by decide)).blank
    have hall := hl.infix hs hr (by decide) hu (by decide) (by simp)
    cases ol <;> cases or <;> exact Reads.node .altOp hall rfl (.inl (by decide))
  | assign | modify | updateAdd | updateSub | updateMul | updateDiv | updateMod | updateAlt =>
    have hl : Reads (.n .orExpr) Closes lead isOpen l ol := hl
    have hr : Reads (.n .orExpr) Closes lead' isOpen' r or := hr
    have hall := hl.infix (reads_assignSym rfl) hr (by decide) hu (by decide) (by simp)
    cases ol <;> cases or <;> exact Reads.node .assignOp hall rfl (.inl (by decide))
  | or =>
    have hl : Reads (.n .orExpr) Closes lead isOpen l ol := hl
    have hr : Reads (.n .andExpr) Closes lead' isOpen' r or := hr
    have hs : Reads (.t .kwOr) (fun _ => True) false false (Operator.joint .or)
        (some (Lexeme.of .kwOr).text) :=
      (reads_spaced (fun _ => Lexeme.stands_keyword (by decide) Text.breaks_blank) (by decide)).blank
    have hall := hl.infix hs hr (by decide) hu (by decide) (by simp)
    cases ol <;> cases or <;> exact Reads.node .orOp hall rfl (.inl (by decide))
  | and =>
    have hl : Reads (.n .andExpr) Closes lead isOpen l ol := hl
    have hr : Reads (.n .compare) Closes lead' isOpen' r or := hr
    have hs : Reads (.t .kwAnd) (fun _ => True) false false (Operator.joint .and)
        (some (Lexeme.of .kwAnd).text) :=
      (reads_spaced (fun _ => Lexeme.stands_keyword (by decide) Text.breaks_blank) (by decide)).blank
    have hall := hl.infix hs hr (by decide) hu (by decide) (by simp)
    cases ol <;> cases or <;> exact Reads.node .andOp hall rfl (.inl (by decide))
  | eq | ne | gt | lt | ge | le =>
    have hl : Reads (.n .additive) Closes lead isOpen l ol := hl
    have hr : Reads (.n .additive) Closes lead' isOpen' r or := hr
    have hall := hl.infix (reads_cmpSym rfl) hr (by decide) hu (by decide) (by simp)
    cases ol <;> cases or <;> exact Reads.node .compareOp hall rfl (.inl (by decide))
  | add | sub =>
    have hl : Reads (.n .additive) Closes lead isOpen l ol := hl
    have hr : Reads (.n .multiplicative) Closes lead' isOpen' r or := hr
    have hall := hl.infix (reads_addSym (by simp)) hr (by decide) hu (by decide) (by simp)
    cases ol <;> cases or <;> exact Reads.node .additiveOp hall rfl (.inl (by decide))
  | mul | div | mod =>
    have hl : Reads (.n .multiplicative) Closes lead isOpen l ol := hl
    have hr : Reads (.n .unary) Closes lead' isOpen' r or := hr
    have hall := hl.infix (reads_mulSym (by simp)) hr (by decide) hu (by decide) (by simp)
    cases ol <;> cases or <;> exact Reads.node .multiplicativeOp hall rfl (.inl (by decide))

end Binary

end JqFlow
