import JqFlow.Proofs.Reading.Feed

/-!
# What the table guarantees

The table of the automaton is data. What the reading of derivations needs of it is checked state by
state and production by production.

## Main definitions

- `Automaton.Row.next?`: where a state goes with a symbol
- `Nonterminal.first`: the terminals that a phrase begins with
- `Automaton.follow`: the terminals before which a state finishes a phrase
- `Automaton.leads`: does the way of a production lead to its end?

## Main statements

- `Automaton.leads_of_goto`: where a state goes with a phrase, the way of each of its productions
  leads to the end
- `Derivation.first_yield`: what is derived begins as its symbol does
-/

namespace JqFlow

open Terminal

/-- The terminals that a phrase begins with. -/
def Nonterminal.first : Nonterminal → List Terminal
  | start | pipe => Automaton.pipeShifts.map Prod.fst
  | comma | alt | assign | orExpr | andExpr | compare | additive | multiplicative | unary
  | objValue => Automaton.unaryShifts.map Prod.fst
  | suffixed | primary => Automaton.primaryShifts.map Prod.fst
  | assignSym => [equal, barEqual, plusEqual, minusEqual, starEqual, slashEqual, percentEqual,
      slashSlashEqual]
  | cmpSym => [equalEqual, bangEqual, less, lessEqual, greater, greaterEqual]
  | addSym => [plus, minus]
  | mulSym => [star, slash, percent]
  | moreArgs => [semicolon]
  | elifs | elif => [kwElif]
  | object => [openBrace]
  | moreEntries => [.comma]
  | entry => [ident, string, openParen, varName]

/-- The terminals that a symbol begins with. -/
def Symbol.first : Symbol → List Terminal
  | t x => [x]
  | n x => x.first

/-- The terminals that come after the first of several symbols: those that the next begins with, or
those that come after all of them. -/
def Symbol.heads (after : List Terminal) : List Symbol → List Terminal
  | [] => after
  | s :: _ => s.first

/-- What a production derives begins with terminals that its phrase begins with. -/
theorem Production.first_of_heads (p : Production) {x : Terminal}
    (h : x ∈ Symbol.heads [] p.rhs) : x ∈ p.lhs.first := by
  have hall : (Symbol.heads [] p.rhs).all p.lhs.first.contains = true := by
    cases p <;> decide
  exact List.contains_iff_mem.mp (List.all_eq_true.mp hall x h)

mutual

/-- What is derived begins with a terminal that its symbol begins with. -/
theorem Derivation.first_yield {s : Symbol} (d : Derivation s) :
    ∃ l w, d.yield = l :: w ∧ l.terminal ∈ s.first := by
  match d with
  | .leaf terminal text => exact ⟨⟨terminal, text⟩, [], rfl, List.mem_singleton.mpr rfl⟩
  | .node p children =>
    obtain ⟨l, w, hyield, hl⟩ := children.first_yield p.rhs_ne_nil
    exact ⟨l, w, hyield, p.first_of_heads hl⟩

theorem Forest.first_yield {ss : List Symbol} (f : Forest ss) (h : ss ≠ []) :
    ∃ l w, f.yield = l :: w ∧ l.terminal ∈ Symbol.heads [] ss := by
  match f with
  | .nil => exact absurd rfl h
  | .cons first rest =>
    obtain ⟨l, w, hyield, hl⟩ := first.first_yield
    exact ⟨l, w ++ rest.yield, by rw [Forest.yield, hyield, List.cons_append], hl⟩

end

namespace Automaton

/-- Where a state goes with a symbol. -/
def Row.next? (r : Row) : Symbol → Option State
  | .t x => r.shifts.lookup x
  | .n x => r.gotos.lookup x

/-- May a signed term be the value of an entry here? Then a term with its suffixes leads to a state
of its own. -/
def Row.isWide (r : Row) : Bool :=
  r.gotos.lookup .suffixed = some 87

/-- The terminals before which a phrase is finished. What comes after the value of an entry may come
after a signed term only where that may be a value. -/
def follow (wide : Bool) : Nonterminal → List Terminal
  | .start => atEnd
  | .pipe => afterPipe
  | .comma | .alt => afterComma
  | .assign => afterAssign
  | .orExpr => afterOr
  | .andExpr | .compare => afterAnd
  | .additive => afterAdditive
  | .multiplicative => afterMultiplicative
  | .unary => if wide then afterUnary else afterMultiplicative
  | .assignSym | .cmpSym | .addSym | .mulSym => afterSign
  | .suffixed => afterSuffixed
  | .primary | .object => afterPrimary
  | .moreArgs => afterArg
  | .elifs | .elif => afterElif
  | .moreEntries | .entry => afterEntry
  | .objValue => afterObjValue

/-- May a symbol stand before each of the given terminals? -/
def precedes (wide : Bool) (before : List Terminal) : Symbol → Bool
  | .t _ => true
  | .n x => before.all (follow wide x).contains

/-- Is there a way from a state with the given symbols, on which each of them is finished before what
comes next? -/
def leads (after : List Terminal) : State → List Symbol → Bool
  | _, [] => true
  | state, s :: ss =>
    match (row state).next? s with
    | none => false
    | some next =>
      precedes (row state).isWide (Symbol.heads after ss) s && leads after next ss

/-- The state that the way with the given symbols ends in. -/
def target : State → List Symbol → State
  | state, [] => state
  | state, s :: ss => target (((row state).next? s).getD 0) ss

/-- Are the states on the way with the given symbols such that no pipe begins where the next symbol
is another phrase? -/
def apart : State → List Symbol → Bool
  | _, [] => true
  | state, .t x :: ss => apart (((row state).next? (.t x)).getD 0) ss
  | state, .n x :: ss =>
    (x = .pipe || (row state).gotos.lookup .pipe = none) &&
      apart (((row state).next? (.n x)).getD 0) ss

/-- Is a production finished before each of the given terminals? A `catch` is read first where a
body could be finished. -/
def Row.finishes (r : Row) (p : Production) (before : List Terminal) : Bool :=
  before.all fun x =>
    r.finish? x = some p && (r.shifts.lookup x = none || (p = .attempt && x = kwCatch))

/-- How the states that go somewhere with the phrase of a production begin on its way: each with
what may follow, and the state that it goes to first. -/
def beginnings (p : Production) : List (Bool × Option State) :=
  (rows.toList.filterMap fun r =>
    (r.gotos.lookup p.lhs).map fun _ => (r.isWide, p.rhs.head?.bind r.next?)).eraseDups

/-- Does a beginning lead to the end of a production? -/
def serves (p : Production) (wide : Bool) : Option State → Bool
  | none => false
  | some state =>
    match p.rhs with
    | [] => false
    | s :: ss =>
      precedes wide (Symbol.heads (follow wide p.lhs) ss) s &&
        leads (follow wide p.lhs) state ss &&
        (row (target state ss)).finishes p (follow wide p.lhs) &&
        apart state ss

theorem row_of_le {state : State} (h : rows.size ≤ state) : row state = under [] [] := by
  unfold row
  rw [Array.getElem?_eq_none h]
  rfl

theorem row_mem {state : State} (h : row state ≠ under [] []) : row state ∈ rows.toList := by
  have hlt : state < rows.size := Nat.lt_of_not_le fun hle => h (row_of_le hle)
  unfold row
  rw [Array.getElem?_eq_getElem hlt]
  exact Array.mem_toList_iff.mpr (Array.getElem_mem hlt)

theorem row_mem_of_goto {state next : State} {x : Nonterminal}
    (h : (row state).gotos.lookup x = some next) : row state ∈ rows.toList :=
  row_mem fun hrow => by simp [hrow, under] at h

theorem row_mem_of_shift {state next : State} {x : Terminal}
    (h : (row state).shifts.lookup x = some next) : row state ∈ rows.toList :=
  row_mem fun hrow => by simp [hrow, under] at h

theorem row_mem_of_due {state : State} {x : Terminal} {p : Production}
    (h : (row state).finish? x = some p) : row state ∈ rows.toList :=
  row_mem fun hrow => by simp [hrow, Row.finish?, under] at h

theorem beginnings_serve (p : Production) :
    (beginnings p).all (fun b => serves p b.1 b.2) = true := by
  cases p <;> decide +kernel

/-- Where a state goes with a phrase, the way of each of its productions leads to the end, and there
the production is finished. -/
theorem leads_of_goto {state next : State} {p : Production}
    (h : (row state).gotos.lookup p.lhs = some next) :
    leads (follow (row state).isWide p.lhs) state p.rhs = true ∧
      (row (target state p.rhs)).finishes p (follow (row state).isWide p.lhs) = true ∧
      apart (target state (p.rhs.take 1)) p.rhs.tail = true := by
  have hmem : ((row state).isWide, p.rhs.head?.bind (row state).next?) ∈ beginnings p := by
    refine List.mem_eraseDups.mpr (List.mem_filterMap.mpr ⟨row state, row_mem_of_goto h, ?_⟩)
    rw [h]
    rfl
  have hserves := List.all_eq_true.mp (beginnings_serve p) _ hmem
  obtain ⟨s, ss, hrhs⟩ := List.exists_cons_of_ne_nil p.rhs_ne_nil
  simp only [hrhs, List.head?_cons, Option.bind_some] at hserves ⊢
  cases hnext : (row state).next? s with
  | none => simp [hnext, serves] at hserves
  | some first =>
    simp only [hnext, serves, hrhs, Bool.and_eq_true] at hserves
    obtain ⟨⟨⟨hprecedes, hleads⟩, hfinishes⟩, hapart⟩ := hserves
    simp only [leads, target, hnext, Option.getD_some, Bool.and_eq_true]
    refine ⟨⟨hprecedes, hleads⟩, hfinishes, ?_⟩
    simpa [target, hnext] using hapart

/-! ### Names and keywords -/

/-- Do two states expect the same keywords? -/
def Row.agrees (r r' : Row) : Bool :=
  Terminal.keywords.all fun k => r.expects k = r'.expects k

theorem Row.agrees.sees {r r' : Row} (h : r.agrees r' = true) (l : Lexeme) :
    r.sees l = r'.sees l := by
  have hpromote : promote r.expects l.text = promote r'.expects l.text := by
    unfold promote
    cases hk : Terminal.keyword? l.text with
    | none => rfl
    | some k =>
      have hmem : k ∈ Terminal.keywords := List.mem_of_find?_eq_some hk
      have hk := of_decide_eq_true (List.all_eq_true.mp h k hmem)
      simp only [hk]
  rw [Row.sees, Row.sees, hpromote]

theorem finished_agrees :
    (rows.toList.all fun r =>
      match r.finish? .ident with
      | none => true
      | some p => rows.toList.all fun r' =>
          match r'.gotos.lookup p.lhs with
          | none => true
          | some next => r.agrees (row next)) = true := by
  decide +kernel

/-- Where a production is finished before a name, the same keywords are expected before and after. -/
theorem agrees_of_finish {state below next : State} {p : Production}
    (h : (row state).finish? .ident = some p) (h' : (row below).gotos.lookup p.lhs = some next) :
    (row state).agrees (row next) = true := by
  have hall := List.all_eq_true.mp finished_agrees _ (row_mem_of_due h)
  simp only [h] at hall
  have hall' := List.all_eq_true.mp hall _ (row_mem_of_goto h')
  simpa only [h'] using hall'

end Automaton

namespace Stack

/-! ### Several productions in a row -/

/-- Before a token, productions are finished one after another. -/
inductive Settles (l : Lexeme) : Stack → Stack → Prop
  | refl (stack : Stack) : Settles l stack stack
  | step {p : Production} {stack after final : Stack} (first : Finishes l.terminal p stack after)
    (part : whole? after = none) (rest : Settles l after final) : Settles l stack final

variable {l : Lexeme} {stack after : Stack}

theorem Settles.feed (h : Settles l stack after) : feed l stack = feed l after := by
  induction h with
  | refl => rfl
  | step first part _ ih => rw [feed_finish first part, ih]

theorem Finishes.sees {p : Production} (h : Finishes l.terminal p stack after) :
    stack.row.sees l = after.row.sees l := by
  by_cases hident : l.terminal = .ident
  · obtain ⟨children, next, -, hnext, rfl⟩ := finish?_eq_some.mp h.eq_after
    have hdue := h.due
    rw [hident] at hdue
    exact Automaton.Row.agrees.sees (Automaton.agrees_of_finish hdue hnext) l
  · simp [Automaton.Row.sees, hident]

theorem Settles.sees (h : Settles l stack after) : stack.row.sees l = after.row.sees l := by
  induction h with
  | refl => rfl
  | step first _ _ ih => rw [first.sees, ih]

theorem Settles.read (h : Settles l stack after) (w : List Lexeme) :
    read (l :: w) stack = read (l :: w) after := by
  simp only [Stack.read, h.sees, h.feed]

/-- Is the test of a token the same before and after a production is finished before it? -/
def Steady (passes : Automaton.Row → Lexeme → Bool) : Prop :=
  ∀ {l : Lexeme} {p : Production} {stack after : Stack}, Finishes l.terminal p stack after →
    passes stack.row l = passes after.row l

theorem steady_sees : Steady Automaton.Row.sees :=
  Finishes.sees

theorem Settles.readBy {passes : Automaton.Row → Lexeme → Bool} (hpasses : Steady passes)
    (h : Settles l stack after) (w : List Lexeme) :
    readBy passes (l :: w) stack = readBy passes (l :: w) after := by
  have hsame : passes stack.row l = passes after.row l := by
    induction h with
    | refl => rfl
    | step first _ _ ih => rw [hpasses first, ih]
  simp only [Stack.readBy, hsame, h.feed]

theorem Settles.trans {final : Stack} (h : Settles l stack after) (h' : Settles l after final) :
    Settles l stack final := by
  induction h with
  | refl => exact h'
  | step first part _ ih => exact .step first part (ih h')

/-- A token before which something is finished is expected. -/
theorem Settles.expects (h : Settles l stack after) :
    stack = after ∨ stack.row.expects l.terminal = true := by
  cases h with
  | refl => exact .inl rfl
  | step first _ _ => exact .inr (by simp [Automaton.Row.expects, first.due])

end Stack
end JqFlow
