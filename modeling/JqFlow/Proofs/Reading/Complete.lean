import JqFlow.Proofs.Reading.Table

/-!
# Every derivation is read

The automaton reads what a derivation derives and puts the derivation on its stack, if each `catch`
in it belongs to the nearest `try` and each name is taken for a name where it stands.

## Main definitions

- `Derivation.endsOpen`: does a derivation end with a `try` that has no `catch`?
- `Derivation.Nearest`: no `catch` comes after such an end
- `Derivation.Seen`: every token is taken for what it is
- `Derivation.Passes`: every token passes a test at the state in which it is read

## Main statements

- `Derivation.readBy_yield`, `Derivation.read_yield`: a derivation is read
- `Stack.feed_yield_end`: a derivation of a pipe is a whole query where the text ends
-/

namespace JqFlow

open Automaton (State leads follow precedes target)

mutual

/-- Does what is derived end with a `try` that has no `catch`? -/
def Derivation.endsOpen {s : Symbol} : Derivation s → Bool
  | .leaf .. => false
  | .node p children => p = .attempt || children.endsOpen

/-- Does the last of several derivations end so? -/
def Forest.endsOpen {ss : List Symbol} : Forest ss → Bool
  | .nil => false
  | .cons first .nil => first.endsOpen
  | .cons _ (.cons second rest) => (Forest.cons second rest).endsOpen

end

mutual

/-- Does every `catch` belong to the nearest `try` before it that has none? -/
def Derivation.Nearest {s : Symbol} : Derivation s → Prop
  | .leaf .. => True
  | .node _ children => children.Nearest

/-- The same for several derivations: where one ends with a `try` that has no `catch`, none may come
next. -/
def Forest.Nearest {ss : List Symbol} : Forest ss → Prop
  | .nil => True
  | @Forest.cons _ ss first rest =>
    first.Nearest ∧ (first.endsOpen → .kwCatch ∉ Symbol.heads [] ss) ∧ rest.Nearest

end

mutual

/-- Is every token of a derivation that begins in the given state taken for what it is? -/
def Derivation.Seen (state : State) {s : Symbol} : Derivation s → Prop
  | .leaf terminal text => (Automaton.row state).sees ⟨terminal, text⟩
  | .node _ children => children.Seen state

/-- The same for several derivations. -/
def Forest.Seen (state : State) {ss : List Symbol} : Forest ss → Prop
  | .nil => True
  | @Forest.cons s _ first rest =>
    first.Seen state ∧ rest.Seen (((Automaton.row state).next? s).getD 0)

end

section Passes

variable (passes : Automaton.Row → Lexeme → Bool)

mutual

/-- Does every token of a derivation that begins in the given state pass a test? -/
def Derivation.Passes (state : State) {s : Symbol} : Derivation s → Prop
  | .leaf terminal text => passes (Automaton.row state) ⟨terminal, text⟩
  | .node _ children => children.Passes state

/-- The same for several derivations. -/
def Forest.Passes (state : State) {ss : List Symbol} : Forest ss → Prop
  | .nil => True
  | @Forest.cons s _ first rest =>
    first.Passes state ∧ rest.Passes (((Automaton.row state).next? s).getD 0)

end

end Passes

mutual

theorem Derivation.Seen.passes {s : Symbol} {d : Derivation s} {state : State} (h : d.Seen state) :
    d.Passes Automaton.Row.sees state := by
  match d with
  | .leaf terminal text => exact h
  | .node p children => exact Forest.Seen.passes h

theorem Forest.Seen.passes {ss : List Symbol} {f : Forest ss} {state : State} (h : f.Seen state) :
    f.Passes Automaton.Row.sees state := by
  match f with
  | .nil => trivial
  | .cons first rest => exact ⟨Derivation.Seen.passes h.1, Forest.Seen.passes h.2⟩

end

/-! ### A stack with derivations put on it -/

namespace Stack

/-- The stack with derivations put on it one after another. -/
def push {ss : List Symbol} : Forest ss → Stack → Stack
  | .nil, stack => stack
  | @Forest.cons s _ first rest, stack =>
    push rest (⟨s, first, (stack.row.next? s).getD 0⟩ :: stack)

theorem push_state {ss : List Symbol} (f : Forest ss) (stack : Stack) :
    (push f stack).state = target stack.state ss := by
  match f with
  | .nil => rfl
  | .cons first rest => exact push_state rest _

/-- The frames that a forest puts on a stack, first symbol first. -/
theorem exists_frames {ss : List Symbol} (f : Forest ss) (stack : Stack) :
    ∃ fs : List Frame, push f stack = fs.reverse ++ stack ∧ fs.length = ss.length ∧
      Forest.ofFrames? ss fs = some f := by
  match f with
  | .nil => exact ⟨[], rfl, rfl, rfl⟩
  | @Forest.cons s ss first rest =>
    obtain ⟨fs, hpush, hlength, hframes⟩ :=
      exists_frames rest (⟨s, first, (stack.row.next? s).getD 0⟩ :: stack)
    refine ⟨⟨s, first, (stack.row.next? s).getD 0⟩ :: fs, ?_, ?_, ?_⟩
    · rw [push, hpush, List.reverse_cons, List.append_assoc]
      rfl
    · rw [List.length_cons, List.length_cons, hlength]
    · rw [Forest.ofFrames?, dif_pos rfl, hframes]
      rfl

/-- Finishing a production puts its derivation in the place of its parts. -/
theorem finish?_push {p : Production} (children : Forest p.rhs) {stack : Stack} {next : State}
    (h : stack.row.gotos.lookup p.lhs = some next) :
    finish? p (push children stack) = some (⟨.n p.lhs, .node p children, next⟩ :: stack) := by
  obtain ⟨fs, hpush, hlength, hframes⟩ := exists_frames children stack
  have hreverse : fs.reverse.length = p.rhs.length := by rw [List.length_reverse, hlength]
  refine finish?_eq_some.mpr ⟨children, next, ?_, ?_, ?_⟩
  · rw [hpush, ← hreverse, List.take_left', List.reverse_reverse, hframes]
    rfl
  · rw [hpush, ← hreverse, List.drop_left' rfl]
    exact h
  · rw [hpush, ← hreverse, List.drop_left' rfl]

end Stack

/-! ### Reading -/

theorem Production.start_notMem_rhs (p : Production) : Symbol.n .start ∉ p.rhs := by
  cases p <;> decide

theorem Automaton.precedes_of_mem {wide : Bool} {before : List Terminal} {s : Symbol} {x : Terminal}
    (h : precedes wide before s = true) (hx : x ∈ before) : precedes wide [x] s = true := by
  cases s with
  | t _ => rfl
  | n y =>
    have hmem := List.all_eq_true.mp h x hx
    simpa [precedes] using hmem

/-- A production is finished before what may follow its phrase. -/
theorem Automaton.Row.due_of_finishes {r : Row} {p : Production} {before : List Terminal}
    {x : Terminal} (h : r.finishes p before = true) (hx : x ∈ before)
    (hcatch : p = .attempt → x ≠ .kwCatch) :
    r.finish? x = some p ∧ r.shifts.lookup x = none := by
  have hall := List.all_eq_true.mp h x hx
  simp only [Bool.and_eq_true, Bool.or_eq_true, decide_eq_true_eq] at hall
  obtain ⟨hdue, hshift | ⟨rfl, hx⟩⟩ := hall
  · exact ⟨hdue, hshift⟩
  · exact absurd hx (hcatch rfl)

theorem Stack.whole?_eq_none {s : Symbol} (hs : s ≠ .n .start) (d : Derivation s) (next : State)
    (stack : Stack) : whole? (⟨s, d, next⟩ :: stack) = none := by
  unfold whole?
  split
  · next heq =>
    obtain ⟨heq, -⟩ := List.cons.inj heq
    exact absurd (congrArg Frame.symbol heq) hs
  · rfl

section Reading

variable {passes : Automaton.Row → Lexeme → Bool}

mutual

/-- A derivation is read: before what may follow, the automaton has put it on its stack. -/
theorem Derivation.readBy_yield (hpasses : Stack.Steady passes) {s : Symbol} (d : Derivation s)
    (hs : s ≠ .n .start) (hd : d.Nearest) {stack : Stack} {next : State}
    (hnext : stack.row.next? s = some next) (hseen : d.Passes passes stack.state) {l : Lexeme}
    (hl : precedes stack.row.isWide [l.terminal] s = true)
    (hopen : d.endsOpen = true → l.terminal ≠ .kwCatch) :
    ∃ before, stack.readBy passes d.yield = some before ∧
      Stack.Settles l before (⟨s, d, next⟩ :: stack) := by
  match d with
  | .leaf x text =>
    refine ⟨_, ?_, .refl _⟩
    exact Stack.readBy_shift (l := ⟨x, text⟩) hseen hnext
  | .node p children =>
    obtain ⟨hleads, hfinishes, -⟩ := Automaton.leads_of_goto hnext
    have hfollow : l.terminal ∈ follow stack.row.isWide p.lhs := by
      simpa [precedes] using hl
    obtain ⟨before, hread, hsettles⟩ := children.readBy_yield hpasses p.start_notMem_rhs hd hleads
      hseen hfollow fun hchildren => hopen (by simp [Derivation.endsOpen, hchildren])
    obtain ⟨hdue, hshift⟩ := Automaton.Row.due_of_finishes hfinishes hfollow fun hattempt =>
      hopen (by simp [Derivation.endsOpen, hattempt])
    rw [← Stack.push_state children] at hdue hshift
    have hfinish : Stack.Finishes l.terminal p (stack.push children)
        (⟨.n p.lhs, .node p children, next⟩ :: stack) :=
      ⟨hshift, hdue, Stack.finish?_push children hnext⟩
    exact ⟨before, hread, hsettles.trans (.step hfinish (Stack.whole?_eq_none hs _ _ _) (.refl _))⟩

theorem Forest.readBy_yield (hpasses : Stack.Steady passes) {ss : List Symbol} (f : Forest ss)
    (hss : .n .start ∉ ss) (hf : f.Nearest) {stack : Stack} {after : List Terminal}
    (hleads : leads after stack.state ss = true) (hseen : f.Passes passes stack.state) {l : Lexeme}
    (hl : l.terminal ∈ after) (hopen : f.endsOpen = true → l.terminal ≠ .kwCatch) :
    ∃ before, stack.readBy passes f.yield = some before ∧ Stack.Settles l before (stack.push f) := by
  match f with
  | .nil => exact ⟨stack, rfl, .refl _⟩
  | @Forest.cons s ss first rest =>
    obtain ⟨hfirst, hcatch, hrest⟩ := hf
    rw [List.mem_cons, not_or] at hss
    rw [leads] at hleads
    cases hnext : stack.row.next? s with
    | none =>
      rw [Stack.row] at hnext
      simp [hnext] at hleads
    | some next =>
      have hgetD : (stack.row.next? s).getD 0 = next := by rw [hnext]; rfl
      rw [Stack.row] at hnext
      simp only [hnext, Bool.and_eq_true] at hleads
      obtain ⟨hprecedes, hleads⟩ := hleads
      have hseenRest : rest.Passes passes next := by
        have := hseen.2
        rwa [hnext] at this
      -- The first derivation is read before the token that comes next, whatever it belongs to.
      have hread {l' : Lexeme} (hl' : l'.terminal ∈ Symbol.heads after ss)
          (hopen' : first.endsOpen = true → l'.terminal ≠ .kwCatch) :=
        first.readBy_yield hpasses (Ne.symm hss.1) hfirst hnext hseen.1
          (Automaton.precedes_of_mem hprecedes hl') hopen'
      rw [Stack.push, hgetD]
      have hopenRest (h : rest.endsOpen = true) : l.terminal ≠ .kwCatch := by
        refine hopen ?_
        cases rest with
        | nil => exact absurd h (by simp [Forest.endsOpen])
        | cons second rest => exact h
      obtain ⟨last, hlast, hsettles⟩ := @Forest.readBy_yield hpasses _ rest hss.2 hrest
        (⟨s, first, next⟩ :: stack) after hleads hseenRest l hl hopenRest
      cases rest with
      | nil =>
        obtain ⟨before, hbefore, hfirst⟩ := hread hl hopen
        rw [Forest.yield, Stack.readBy_append, hbefore]
        exact ⟨before, rfl, hfirst⟩
      | cons second rest =>
        obtain ⟨l', w, hyield, hl'⟩ := (Forest.cons second rest).first_yield (by simp)
        obtain ⟨before, hbefore, hfirst⟩ := hread hl' fun h hl'' => hcatch h (hl'' ▸ hl')
        rw [Forest.yield, Stack.readBy_append, hbefore, hyield]
        refine ⟨last, ?_, hsettles⟩
        rw [Option.bind_some, hfirst.readBy hpasses, ← hyield]
        exact hlast

end

end Reading

/-- A derivation is read if all its tokens are taken for what they are. -/
theorem Derivation.read_yield {s : Symbol} (d : Derivation s) (hs : s ≠ .n .start)
    (hd : d.Nearest) {stack : Stack} {next : State} (hnext : stack.row.next? s = some next)
    (hseen : d.Seen stack.state) {l : Lexeme}
    (hl : precedes stack.row.isWide [l.terminal] s = true)
    (hopen : d.endsOpen = true → l.terminal ≠ .kwCatch) :
    ∃ before, stack.read d.yield = some before ∧
      Stack.Settles l before (⟨s, d, next⟩ :: stack) := by
  rw [Stack.read_eq_readBy]
  exact d.readBy_yield Stack.steady_sees hs hd hnext hseen.passes hl hopen

theorem Forest.read_yield {ss : List Symbol} (f : Forest ss) (hss : .n .start ∉ ss)
    (hf : f.Nearest) {stack : Stack} {after : List Terminal}
    (hleads : leads after stack.state ss = true) (hseen : f.Seen stack.state) {l : Lexeme}
    (hl : l.terminal ∈ after) (hopen : f.endsOpen = true → l.terminal ≠ .kwCatch) :
    ∃ before, stack.read f.yield = some before ∧ Stack.Settles l before (stack.push f) := by
  rw [Stack.read_eq_readBy]
  exact f.readBy_yield Stack.steady_sees hss hf hleads hseen.passes hl hopen

namespace Stack

/-- The token with which a text ends. -/
def endToken : Lexeme := ⟨.endOfInput, []⟩

/-- Where the tokens of a derivation of a pipe end, the query is whole. -/
theorem feed_readBy_end {passes : Automaton.Row → Lexeme → Bool} (hpasses : Steady passes)
    (d : Derivation (.n .pipe)) (hd : d.Nearest) (hseen : d.Passes passes 0) :
    ∃ before, readBy passes d.yield [] = some before ∧ before.row.expects .endOfInput = true ∧
      feed endToken before = .accepted (.node .start (.cons d .nil)) := by
  have hnext : (row []).next? (.n .pipe) = some 2 := by
    show (Automaton.row 0).gotos.lookup .pipe = some 2
    decide +kernel
  obtain ⟨before, hread, hsettles⟩ := @Derivation.readBy_yield _ hpasses _ d (by decide)
    hd [] 2 hnext hseen endToken (by decide +kernel) (fun _ => by decide)
  have hfinish : Finishes .endOfInput .start [⟨.n .pipe, d, 2⟩]
      [⟨.n .start, .node .start (.cons d .nil), 1⟩] := by
    refine ⟨?_, ?_, ?_⟩
    · show (Automaton.row 2).shifts.lookup .endOfInput = none
      decide +kernel
    · show (Automaton.row 2).finish? .endOfInput = some .start
      decide +kernel
    · have hgoto : (row []).gotos.lookup .start = some 1 := by
        show (Automaton.row 0).gotos.lookup .start = some 1
        decide +kernel
      have hpush : push (.cons d .nil) [] = [⟨.n .pipe, d, 2⟩] := by
        rw [push, hnext]
        rfl
      rw [← hpush]
      exact finish?_push (p := .start) (.cons d .nil) hgoto
  refine ⟨before, hread, ?_, ?_⟩
  · rcases hsettles.expects with rfl | h
    · show (Automaton.row 2).expects .endOfInput = true
      decide +kernel
    · exact h
  · rw [hsettles.feed]
    exact feed_accept hfinish rfl rfl

/-- Where a text ends after a derivation of a pipe, the query is whole. -/
theorem feed_yield_end (d : Derivation (.n .pipe)) (hd : d.Nearest) (hseen : d.Seen 0) :
    ∃ before, read d.yield [] = some before ∧ before.row.expects .endOfInput = true ∧
      feed endToken before = .accepted (.node .start (.cons d .nil)) := by
  rw [read_eq_readBy]
  exact feed_readBy_end steady_sees d hd hseen.passes

end Stack
end JqFlow
