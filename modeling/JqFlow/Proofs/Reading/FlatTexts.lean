import JqFlow.Proofs.Reading.OperatorTrees

/-!
# Texts without parentheses

Short terms with operators between them, and no parentheses. Such a text is refused if two operators
of a level that groups to no side meet on it: two assignments with nothing looser between them, or
two comparisons. Any other is read as a tree that needs no parentheses anywhere, so the printer
writes the same text again.

## Main definitions

- `ShortTerm`: a term without parts, as it is written
- `FlatText`: short terms with operators between them
- `Operator.Clash`: two operators that group to no side meet on one level
- `Query.Flat`: a tree that is printed without parentheses, with its operators from left to right

## Main statements

- `Query.Flat.attach`: one more operator and term at the end
- `Query.Flat.meet_of_repeats`, `Query.Flat.repeats_of_meet`: operators of a tree clash if one of them
  repeats another in it
- `Query.Flat.reads`: a flat tree in which none does is read as it is
- `parse_flatText`: what the reader makes of a text without parentheses
-/

namespace JqFlow

/-! ### Short terms and operators -/

/-- A term without parts, as it is written. -/
inductive ShortTerm
  | identity
  | recurse
  | null
  | bool (value : Bool)
  | number (text : Text) (h : Spelling.number? text = some text)
  | var (name : Text) (h : name.isPlainName = true)
  | field (name : Text) (h : name.isPlainName = true)
  | string (value : Text)

namespace ShortTerm

/-- The text of a term. A string has the quotes and escapes that the printer gives it. -/
def text : ShortTerm → Text
  | identity => "."
  | recurse => ".."
  | null => "null"
  | bool true => "true"
  | bool false => "false"
  | number text _ => text
  | var name _ => "$" ++ name
  | field name _ => "." ++ name
  | string value => Quoted.quote value

/-- The query of a term. -/
def query : ShortTerm → Query
  | identity => .identity
  | recurse => .recurse
  | null => .null
  | bool value => .bool value
  | number text _ => .number text
  | var name _ => .var name
  | field name _ => .field name
  | string value => .string value

theorem print_query (a : ShortTerm) : a.query.print = a.text := by
  cases a with
  | bool value => cases value <;> rfl
  | _ => rfl

theorem isOperatorTree_query (a : ShortTerm) : a.query.IsOperatorTree := by
  refine Query.throughout_iff.mpr ⟨?_, ?_⟩
  · cases a with
    | number _ h | var _ h | field _ h => exact h
    | _ => trivial
  · cases a <;> simp [query, Query.parts, Query.field]

end ShortTerm

/-- Short terms with operators of the language between them. -/
structure FlatText where
  first : ShortTerm
  rest : List (Operator × ShortTerm)
  known : ∀ p ∈ rest, p.1.symbol?.isSome = true

namespace FlatText

/-- The text, with single blanks around every operator, but for the comma, which has only one after
it. -/
def text (t : FlatText) : Text :=
  t.first.text ++ t.rest.flatMap fun p => p.1.joint ++ p.2.text

/-- The operators from left to right. -/
def operators (t : FlatText) : List Operator :=
  t.rest.map Prod.fst

end FlatText

namespace Operator

/-- Two assignments have no pipe, comma or alternative between them, or two comparisons have none of
these, no assignment, no `or` and no `and` between them. -/
def Clash (ops : List Operator) : Prop :=
  ∃ before op between op' after, ops = before ++ op :: (between ++ op' :: after) ∧
    ((op.isAssignment = true ∧ op'.isAssignment = true ∧
        ∀ o ∈ between, o ≠ pipe ∧ o ≠ comma ∧ o ≠ alt) ∨
      (op.isComparison = true ∧ op'.isComparison = true ∧
        ∀ o ∈ between, o ≠ pipe ∧ o ≠ comma ∧ o ≠ alt ∧ o.isAssignment = false ∧ o ≠ or ∧ o ≠ and))

theorem precedence_ne_zero_iff {op : Operator} :
    op.precedence ≠ 0 ↔ op.symbol?.isSome = true := by
  cases op <;> simp [precedence, symbol?]

/-- Two operators of one level that groups to no side meet if no looser one is between them. -/
def Meet (ops : List Operator) : Prop :=
  ∃ before op between op' after, ops = before ++ op :: (between ++ op' :: after) ∧
    op.isLone = true ∧ op'.precedence = op.precedence ∧
      ∀ o ∈ between, op.precedence ≤ o.precedence

theorem Meet.within {ops : List Operator} (h : Meet ops) (before after : List Operator) :
    Meet (before ++ ops ++ after) := by
  obtain ⟨before', op, between, op', after', rfl, hmeet⟩ := h
  exact ⟨before ++ before', op, between, op', after' ++ after, by simp, hmeet⟩

theorem clash_iff_meet {ops : List Operator} (h : ∀ o ∈ ops, o.precedence ≠ 0) :
    Clash ops ↔ Meet ops := by
  have hassign {o : Operator} (ho : o.precedence ≠ 0) :
      (o ≠ pipe ∧ o ≠ comma ∧ o ≠ alt) ↔ 4 ≤ o.precedence := by
    cases o <;> simp_all [precedence]
  have hcompare {o : Operator} (ho : o.precedence ≠ 0) :
      (o ≠ pipe ∧ o ≠ comma ∧ o ≠ alt ∧ o.isAssignment = false ∧ o ≠ or ∧ o ≠ and) ↔
        7 ≤ o.precedence := by
    cases o <;> simp_all [precedence, isAssignment]
  constructor
  · rintro ⟨before, op, between, op', after, rfl, hclash⟩
    have hknown (o : Operator) (ho : o ∈ between) : o.precedence ≠ 0 := h o (by simp [ho])
    refine ⟨before, op, between, op', after, rfl, ?_⟩
    rw [isLone_iff]
    simp only [isAssignment_iff, isComparison_iff] at hclash
    obtain ⟨hop, hop', hbetween⟩ | ⟨hop, hop', hbetween⟩ := hclash
    · exact ⟨.inr hop, hop'.trans hop.symm, fun o ho =>
        hop ▸ (hassign (hknown o ho)).mp (hbetween o ho)⟩
    · refine ⟨.inl hop, hop'.trans hop.symm, fun o ho =>
        hop ▸ (hcompare (hknown o ho)).mp ?_⟩
      simpa [Bool.eq_false_iff, isAssignment_iff] using hbetween o ho
  · rintro ⟨before, op, between, op', after, rfl, hlone, hlevel, hbetween⟩
    have hknown (o : Operator) (ho : o ∈ between) : o.precedence ≠ 0 := h o (by simp [ho])
    refine ⟨before, op, between, op', after, rfl, ?_⟩
    rw [isLone_iff] at hlone
    rcases hlone with hop | hop
    · exact .inr ⟨isComparison_iff.mpr hop, isComparison_iff.mpr (hlevel.trans hop), fun o ho =>
        (hcompare (hknown o ho)).mpr (hop ▸ hbetween o ho)⟩
    · exact .inl ⟨isAssignment_iff.mpr hop, isAssignment_iff.mpr (hlevel.trans hop), fun o ho =>
        (hassign (hknown o ho)).mpr (hop ▸ hbetween o ho)⟩

theorem isRightAssociative_iff {op : Operator} :
    op.isRightAssociative = true ↔ op.precedence = 1 ∨ op.precedence = 3 := by
  cases op <;> simp [isRightAssociative, precedence]

theorem isLone_congr {op op' : Operator} (h : op.precedence = op'.precedence)
    (hlone : op.isLone = true) : op'.isLone = true := by
  rwa [isLone_iff, ← h, ← isLone_iff]

/-- The operators of one level group to one side. -/
theorem isRightAssociative_congr {op op' : Operator} (h : op.precedence = op'.precedence) :
    op.isRightAssociative = op'.isRightAssociative := by
  rw [Bool.eq_iff_iff, isRightAssociative_iff, isRightAssociative_iff, h]

end Operator

namespace Query

open Operator (Meet)

/-! ### Flat trees -/

/-- A tree of short terms and operators no side of which needs parentheses, with its operators from
left to right. -/
inductive Flat : Query → List Operator → Prop
  | term (a : ShortTerm) : Flat a.query []
  | node {op : Operator} {l r : Query} {ops ops' : List Operator} (hop : op.precedence ≠ 0)
    (hl : Flat l ops) (hr : Flat r ops') (hleft : l.needsParens op true = false)
    (hright : r.needsParens op false = false) : Flat (binary op l r) (ops ++ op :: ops')

theorem needsParens_eq_false_iff {parent op : Operator} {isLeft : Bool} (hop : op.precedence ≠ 0)
    (l r : Query) : (binary op l r).needsParens parent isLeft = false ↔
      parent.precedence < op.precedence ∨
        (parent.precedence = op.precedence ∧ isLeft ≠ parent.isRightAssociative) := by
  rw [binary, needsParens_operation hop, Bool.or_eq_false_iff, decide_eq_false_iff_not,
    Bool.and_eq_false_iff, decide_eq_false_iff_not, decide_eq_false_iff_not]
  constructor
  · rintro ⟨hle, hne | hside⟩
    · exact .inl (by omega)
    · by_cases heq : parent.precedence = op.precedence
      · exact .inr ⟨heq, hside⟩
      · exact .inl (by omega)
  · rintro (hlt | ⟨heq, hside⟩)
    · exact ⟨by omega, .inl (by omega)⟩
    · exact ⟨by omega, .inr hside⟩

theorem needsParens_term (a : ShortTerm) (parent : Operator) (isLeft : Bool) :
    a.query.needsParens parent isLeft = false := by
  cases a <;> rfl

namespace Flat

variable {q l r : Query} {op : Operator} {ops : List Operator}

theorem isOperatorTree (h : Flat q ops) : q.IsOperatorTree := by
  induction h with
  | term a => exact a.isOperatorTree_query
  | @node op l r ops ops' hop _ _ _ _ ihl ihr =>
    refine throughout_binary.mpr ⟨⟨?_, ?_⟩, ihl, ihr⟩
    · cases op with
      | other name => exact absurd rfl hop
      | _ => simp [Operator.all]
    · rintro rfl
      exact absurd rfl hop

/-- The text of a flat tree is its sides' with the operator between them. -/
theorem print_node (hop : op.precedence ≠ 0) (hleft : l.needsParens op true = false)
    (hright : r.needsParens op false = false) :
    (binary op l r).print = l.print ++ op.joint ++ r.print := by
  rw [binary, print_operation hop, printOperand, printOperand, hleft, hright]
  rfl

/-- One more operator and term at the end: they go down the right side as long as what is there
binds less tightly. -/
theorem attach (h : Flat q ops) (hop : op.precedence ≠ 0) (a : ShortTerm) :
    ∃ p, Flat p (ops ++ [op]) ∧ p.print = q.print ++ op.joint ++ a.text ∧
      ∀ parent, q.needsParens parent false = false →
        (binary op q a.query).needsParens parent false = false →
          p.needsParens parent false = false := by
  induction h with
  | term b =>
    have hb := needsParens_term b op true
    have ha := needsParens_term a op false
    refine ⟨binary op b.query a.query, .node hop (.term b) (.term a) hb ha, ?_, fun _ _ h => h⟩
    rw [print_node hop hb ha, a.print_query]
  | @node top l r ops ops' htop hl hr hleft hright _ ihr =>
    by_cases hdown : top.precedence < op.precedence ∨
        (top.precedence = op.precedence ∧ top.isRightAssociative = true)
    · obtain ⟨p, hflat, hprint, hparens⟩ := ihr
      have hp : p.needsParens top false = false := by
        refine hparens top hright ((needsParens_eq_false_iff hop r a.query).mpr ?_)
        exact hdown.imp_right fun ⟨heq, hassoc⟩ => ⟨heq, by simp [hassoc]⟩
      refine ⟨binary top l p, ?_, ?_, ?_⟩
      · rw [List.append_assoc]
        exact .node htop hl hflat hleft hp
      · rw [print_node htop hleft hp, print_node htop hleft hright, hprint]
        simp only [List.append_assoc]
      · intro parent hq _
        rw [needsParens_eq_false_iff htop] at hq ⊢
        exact hq
    · have hq : (binary top l r).needsParens op true = false := by
        rw [needsParens_eq_false_iff htop]
        rw [not_or, not_and, Bool.not_eq_true] at hdown
        by_cases heq : top.precedence = op.precedence
        · have hassoc := hdown.2 heq
          rw [Operator.isRightAssociative_congr heq] at hassoc
          exact .inr ⟨heq.symm, by simp [hassoc]⟩
        · exact .inl (by omega)
      have ha := needsParens_term a op false
      refine ⟨binary op (binary top l r) a.query,
        .node hop (.node htop hl hr hleft hright) (.term a) hq ha, ?_, fun _ _ h => h⟩
      rw [print_node hop hq ha, a.print_query]

/-- Any number of operators and terms at the end. -/
theorem attachAll (h : Flat q ops) (rest : List (Operator × ShortTerm))
    (hrest : ∀ p ∈ rest, p.1.precedence ≠ 0) :
    ∃ p, Flat p (ops ++ rest.map Prod.fst) ∧
      p.print = q.print ++ rest.flatMap fun p => p.1.joint ++ p.2.text := by
  induction rest generalizing q ops with
  | nil => exact ⟨q, by simpa using h, by simp⟩
  | cons x rest ih =>
    obtain ⟨p, hflat, hprint, -⟩ := h.attach (hrest x List.mem_cons_self) x.2
    obtain ⟨p', hflat', hprint'⟩ := ih hflat fun y hy => hrest y (List.mem_cons_of_mem x hy)
    refine ⟨p', by simpa using hflat', ?_⟩
    rw [hprint', hprint, List.flatMap_cons]
    simp only [List.append_assoc]

/-! ### Operators that meet -/

/-- No operator of a side binds less tightly than the operator that it is a side of. -/
theorem le_of_mem {parent : Operator} {isLeft : Bool} (h : Flat q ops)
    (hparens : q.needsParens parent isLeft = false) :
    ∀ o ∈ ops, parent.precedence ≤ o.precedence := by
  induction h generalizing parent isLeft with
  | term a => simp
  | @node op l r ops ops' hop _ _ hleft hright ihl ihr =>
    have hle : parent.precedence ≤ op.precedence := by
      rcases (needsParens_eq_false_iff hop l r).mp hparens with hlt | ⟨heq, -⟩
      · exact Nat.le_of_lt hlt
      · exact heq.le
    intro o ho
    rcases List.mem_append.mp ho with ho | ho
    · exact hle.trans (ihl hleft o ho)
    · rcases List.mem_cons.mp ho with rfl | ho
      · exact hle
      · exact hle.trans (ihr hright o ho)

/-- The operators on the right of one that groups to no side bind more tightly. -/
theorem lt_of_mem (h : Flat r ops) (hparens : r.needsParens op false = false)
    (hlone : op.isLone = true) : ∀ o ∈ ops, op.precedence < o.precedence := by
  cases h with
  | term a => simp
  | @node op' l r' ops ops' hop' hl hr hleft hright =>
    have hlt : op.precedence < op'.precedence := by
      rcases (needsParens_eq_false_iff hop' l r').mp hparens with hlt | ⟨-, hside⟩
      · exact hlt
      · exact absurd (Operator.isRightAssociative_of_isLone hlone).symm hside
    intro o ho
    rcases List.mem_append.mp ho with ho | ho
    · exact hlt.trans_le (hl.le_of_mem hleft o ho)
    · rcases List.mem_cons.mp ho with rfl | ho
      · exact hlt
      · exact hlt.trans_le (hr.le_of_mem hright o ho)

/-- An operator of the level of `op` on its left stands at the top of the left side. -/
theorem repeatsLone_of_mem (h : Flat l ops) (hleft : l.needsParens op true = false)
    (hlone : op.isLone = true) {o : Operator} (ho : o ∈ ops)
    (hlevel : o.precedence = op.precedence) :
    (binary op l r).repeatsLone = true := by
  cases h with
  | term a => exact absurd ho List.not_mem_nil
  | @node op' l' r' ops ops' hop' hl hr hleft' hright' =>
    have hle : op'.precedence ≤ o.precedence := by
      rcases List.mem_append.mp ho with ho | ho
      · exact hl.le_of_mem hleft' o ho
      · rcases List.mem_cons.mp ho with rfl | ho
        · exact Nat.le_refl _
        · exact hr.le_of_mem hright' o ho
    have hge : op.precedence ≤ op'.precedence :=
      le_of_mem (.node hop' hl hr hleft' hright') hleft op' (by simp)
    have heq : op'.precedence = op.precedence := by omega
    show ((op.isComparison && op'.isComparison) || (op.isAssignment && op'.isAssignment)) = true
    rw [← isLone_and_precedence]
    simp [hlone, heq]

/-- Operators meet if one of them repeats another at the top of a part of the tree. -/
theorem meet_of_repeats (h : Flat q ops) (hrepeats : ¬q.Throughout fun p => p.repeatsLone = false) :
    Meet ops := by
  induction h with
  | term a =>
    refine absurd (throughout_iff.mpr ⟨?_, ?_⟩) hrepeats
    · cases a <;> rfl
    · cases a <;> simp [ShortTerm.query, parts, field]
  | @node op l r ops ops' hop hl hr hleft hright ihl ihr =>
    by_cases hfreel : l.Throughout fun p => p.repeatsLone = false
    · by_cases hfreer : r.Throughout fun p => p.repeatsLone = false
      · have hroot : (binary op l r).repeatsLone = true := by
          by_contra hfree
          exact hrepeats (throughout_binary.mpr ⟨by simpa using hfree, hfreel, hfreer⟩)
        cases hl with
        | term a => cases a <;> exact absurd hroot Bool.false_ne_true
        | @node op' l' r' xs ys hop' _ hr' _ hright' =>
          have hlevel : (op.isLone && decide (op'.precedence = op.precedence)) = true := by
            rw [isLone_and_precedence]
            exact hroot
          rw [Bool.and_eq_true, decide_eq_true_eq] at hlevel
          exact ⟨xs, op', ys, op, ops', by simp, Operator.isLone_congr hlevel.2.symm hlevel.1,
            hlevel.2.symm, hr'.le_of_mem hright'⟩
      · simpa using (ihr hfreer).within (ops ++ [op]) []
    · simpa using (ihl hfreel).within [] (op :: ops')

/-- Where operators meet, one of them repeats another. -/
theorem repeats_of_meet (h : Flat q ops) (hmeet : Meet ops) :
    ¬q.Throughout fun p => p.repeatsLone = false := by
  induction h with
  | term a =>
    obtain ⟨before, op, between, op', after, heq, -⟩ := hmeet
    exact absurd heq (by simp)
  | @node op l r ops ops' hop hl hr hleft hright ihl ihr =>
    rw [throughout_binary]
    rintro ⟨hroot, hfreel, hfreer⟩
    have hnot {o : Operator} (hlone : op.isLone = true) (ho : o ∈ ops) :
        o.precedence ≠ op.precedence := fun hlevel => by
      rw [hl.repeatsLone_of_mem hleft hlone ho hlevel] at hroot
      exact absurd hroot (by simp)
    obtain ⟨before, o, between, o', after, heq, hlone, hlevel, hbetween⟩ := hmeet
    -- Where is the operator at the top, against the two that meet?
    rcases List.append_eq_append_iff.mp heq with ⟨s, rfl, hs⟩ | ⟨s, rfl, hs⟩
    · cases s with
      | nil =>
        obtain ⟨rfl, rfl⟩ := List.cons.inj hs
        have := hr.lt_of_mem hright hlone o' (by simp)
        omega
      | cons x s =>
        obtain ⟨rfl, rfl⟩ := List.cons.inj hs
        exact ihr ⟨s, o, between, o', after, rfl, hlone, hlevel, hbetween⟩ hfreer
    · cases s with
      | nil =>
        obtain ⟨rfl, rfl⟩ := List.cons.inj hs
        have := hr.lt_of_mem hright hlone o' (by simp)
        omega
      | cons x s =>
        obtain ⟨rfl, htail⟩ := List.cons.inj hs
        have hle : op.precedence ≤ o.precedence := hl.le_of_mem hleft o (by simp)
        -- If the operator at the top is of their level, its left side has one of that level.
        have hsame (h : op.precedence = o.precedence) : False :=
          hnot (Operator.isLone_congr h.symm hlone) (o := o) (by simp) h.symm
        rcases List.append_eq_append_iff.mp htail with ⟨u, rfl, hu⟩ | ⟨v, rfl, hv⟩
        · cases u with
          | nil =>
            obtain ⟨rfl, rfl⟩ := List.cons.inj hu
            exact hsame hlevel
          | cons y u =>
            obtain ⟨rfl, rfl⟩ := List.cons.inj hu
            exact ihl ⟨before, o, between, o', u, rfl, hlone, hlevel, hbetween⟩ hfreel
        · cases v with
          | nil =>
            obtain ⟨rfl, rfl⟩ := List.cons.inj hv
            exact hsame hlevel
          | cons y v =>
            obtain ⟨rfl, rfl⟩ := List.cons.inj hv
            have := hbetween op (by simp)
            exact hsame (by omega)

/-! ### Flat trees are read -/

/-- A flat tree is read as it is unless an operator repeats another. -/
theorem reads (h : Flat q ops) (hfree : q.Throughout fun p => p.repeatsLone = false) :
    ReadsAt q.level false true q.print (some q) := by
  induction h with
  | term a =>
    have hreads : ReadsAt 2 false false a.query.print (some a.query) := by
      cases a with
      | identity => exact reads_identity
      | recurse => exact reads_recurse
      | null => exact reads_name (by decide : Spelling.name? "null" = some "null") (by decide)
      | bool value =>
        cases value with
        | true => exact reads_name (by decide : Spelling.name? "true" = some "true") (by decide)
        | false => exact reads_name (by decide : Spelling.name? "false" = some "false") (by decide)
      | number text h => exact reads_number h
      | var name h => exact reads_var h
      | field name h => exact reads_field h
      | string value => exact reads_string value
    have hlevel : a.query.level = 2 := by cases a <;> rfl
    rw [hlevel]
    exact hreads.mono id fun _ => rfl
  | @node op l r ops ops' hop hl hr hleft hright ihl ihr =>
    obtain ⟨hroot, hfreel, hfreer⟩ := throughout_binary.mp hfree
    have hclash : clashes op l = false := by
      cases l with
      | operation op' l' r' =>
        show (op.isLone && decide (op'.precedence = op.precedence)) = false
        rw [isLone_and_precedence]
        exact hroot
      | _ => rfl
    have hregular {p : Query} {ops : List Operator} (hp : Flat p ops) : p.IsRegular :=
      (throughout_iff.mp hp.isOperatorTree.regular).1
    have hlevell := level_le_sideLevel hop (hregular hl) (hl.isOperatorTree.isSide op true) hleft
      fun _ => hclash
    have hlevelr := level_le_sideLevel hop (hregular hr) (hr.isOperatorTree.isSide op false) hright
      (by simp)
    rw [print_node hop hleft hright]
    have hreadl := ihl hfreel
    have hreadr := ihr hfreer
    have hhigh (isLeft : Bool) : op.sideLevel isLeft ≤ 13 := by
      simp only [Operator.sideLevel, Operator.level]
      split <;> omega
    exact reads_binary hop (hreadl.lift hreadl.bounds.1 hlevell (hhigh true) fun _ => rfl)
      (hreadr.lift hreadr.bounds.1 hlevelr (hhigh false) fun _ => rfl) fun _ => ⟨rfl, rfl⟩

/-- The text of a flat tree is refused if operators meet in it, and is read as the tree if not. -/
theorem parse_tree (h : Flat q ops) :
    (Meet ops → ∃ e, parse q.print = .error e) ∧ (¬Meet ops → parse q.print = .ok q) := by
  constructor
  · intro hmeet
    have hlegible := h.isOperatorTree.legible_iff.not.mpr (h.repeats_of_meet hmeet)
    have hread := parse_print h.isOperatorTree.regular h.isOperatorTree.leads
    cases hparse : parse q.print with
    | error e => exact ⟨e, rfl⟩
    | ok r => exact absurd (hread.isSome.mp (by rw [hparse]; rfl)) hlegible
  · intro hmeet
    have hfree : q.Throughout fun p => p.repeatsLone = false := by
      by_contra hrepeats
      exact hmeet (h.meet_of_repeats hrepeats)
    exact (h.reads hfree).parse_eq

end Flat

end Query

namespace FlatText

variable (t : FlatText)

theorem precedence_ne_zero : ∀ p ∈ t.rest, p.1.precedence ≠ 0 :=
  fun p hp => Operator.precedence_ne_zero_iff.mpr (t.known p hp)

/-- The tree of a text without parentheses. -/
theorem exists_flat : ∃ q : Query, q.Flat t.operators ∧ q.print = t.text := by
  obtain ⟨q, hflat, hprint⟩ := (Query.Flat.term t.first).attachAll t.rest t.precedence_ne_zero
  exact ⟨q, hflat, by rw [hprint, t.first.print_query]; rfl⟩

end FlatText

open Query

/-- A text without parentheses is refused exactly if two operators of a level that groups to no side
meet in it, and if it is read, its query is printed as the same text. -/
theorem parse_flatText (t : FlatText) :
    ((∃ e, parse t.text = .error e) ↔ Operator.Clash t.operators) ∧
      ∀ q, parse t.text = .ok q → q.format? = .ok t.text := by
  obtain ⟨tree, hflat, hprint⟩ := t.exists_flat
  obtain ⟨hrefused, hread⟩ := hflat.parse_tree
  have hmeet : Operator.Clash t.operators ↔ Operator.Meet t.operators := by
    refine Operator.clash_iff_meet fun o ho => ?_
    obtain ⟨p, hp, rfl⟩ := List.mem_map.mp ho
    exact t.precedence_ne_zero p hp
  rw [hprint] at hrefused hread
  rw [hmeet]
  refine ⟨⟨?_, hrefused⟩, ?_⟩
  · rintro ⟨e, he⟩
    by_contra hnot
    rw [hread hnot] at he
    exact absurd he (by simp)
  · intro q hq
    by_cases h : Operator.Meet t.operators
    · obtain ⟨e, he⟩ := hrefused h
      rw [he] at hq
      exact absurd hq (by simp)
    · rw [hread h] at hq
      obtain rfl := Except.ok.inj hq
      rw [format?_of_regular hflat.isOperatorTree.regular, hprint]

/-- The text `. + .. * null` is read, and its query is printed as it was written. -/
theorem parse_flatText_sum :
    ∃ q, parse ". + .. * null" = .ok q ∧ q.format? = .ok ". + .. * null" := by
  let t : FlatText := ⟨.identity, [(.add, .recurse), (.mul, .null)], by simp [Operator.symbol?]⟩
  obtain ⟨hrefused, hformat⟩ := parse_flatText t
  have hclash : ¬Operator.Clash t.operators := by
    rintro ⟨before, op, between, op', after, heq, hclash⟩
    have hop : op ∈ t.operators := by simp [heq]
    have hop : op = .add ∨ op = .mul := by simpa [t, FlatText.operators] using hop
    rcases hop with rfl | rfl <;> simp [Operator.isAssignment, Operator.isComparison] at hclash
  cases hparse : parse t.text with
  | error e => exact absurd (hrefused.mp ⟨e, hparse⟩) hclash
  | ok q => exact ⟨q, hparse, hformat q hparse⟩

end JqFlow
