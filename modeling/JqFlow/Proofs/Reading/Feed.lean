import JqFlow.Grammar.Parser

/-!
# Feeding the automaton

What one terminal does to a stack, without the fuel of `Stack.feed`. Each production that is finished
either shortens the stack or puts a symbol of greater height on its top, so the fuel is never used
up.

## Main definitions

- `Stack.Finishes`: a production is finished before a terminal
- `Automaton.Row.sees`: is a token taken for what it is?
- `Stack.readBy`, `Stack.read`: a stack after a sequence of tokens

## Main statements

- `Stack.feed_shift`, `Stack.feed_refuse`, `Stack.feed_finish`, `Stack.feed_accept`: the four things
  that a terminal can do
-/

namespace JqFlow

theorem Production.rhs_ne_nil (p : Production) : p.rhs ≠ [] := by
  cases p <;> simp [rhs, rule]

/-- Is a token taken for what it is? A name is not where it is a keyword that is expected. -/
def Automaton.Row.sees (r : Row) (l : Lexeme) : Bool :=
  l.terminal ≠ .ident || promote r.expects l.text = .ident

namespace Stack

/-- A production is finished before a terminal. -/
structure Finishes (terminal : Terminal) (p : Production) (stack after : Stack) : Prop where
  unshifted : stack.row.shifts.lookup terminal = none
  due : stack.row.finish? terminal = some p
  eq_after : stack.finish? p = some after

theorem finish?_eq_some {p : Production} {stack after : Stack} :
    stack.finish? p = some after ↔ ∃ children next,
      Forest.ofFrames? p.rhs (stack.take p.rhs.length).reverse = some children ∧
        (row (stack.drop p.rhs.length)).gotos.lookup p.lhs = some next ∧
        after = ⟨.n p.lhs, .node p children, next⟩ :: stack.drop p.rhs.length := by
  simp only [finish?, Option.bind_eq_bind, Option.bind_eq_some_iff, Option.pure_def,
    Option.some.injEq]
  constructor
  · rintro ⟨children, hchildren, next, hnext, rfl⟩
    exact ⟨children, next, hchildren, hnext, rfl⟩
  · rintro ⟨children, next, hchildren, hnext, rfl⟩
    exact ⟨children, hchildren, next, hnext, rfl⟩

/-- The frames of a forest have the symbols of the forest. -/
theorem symbols_of_ofFrames? {ss : List Symbol} {fs : List Frame} {children : Forest ss}
    (h : Forest.ofFrames? ss fs = some children) : fs.map Frame.symbol = ss := by
  induction ss generalizing fs with
  | nil =>
    cases fs with
    | nil => rfl
    | cons => simp [Forest.ofFrames?] at h
  | cons s ss ih =>
    cases fs with
    | nil => simp [Forest.ofFrames?] at h
    | cons f fs =>
      rw [Forest.ofFrames?] at h
      split at h
      · next hsymbol =>
        obtain ⟨rest, hrest, -⟩ := Option.map_eq_some_iff.mp h
        rw [List.map_cons, hsymbol, ih hrest]
      · exact absurd h (by simp)

/-- What is finished stands on the stack. -/
theorem length_le_of_finish? {p : Production} {stack after : Stack}
    (h : stack.finish? p = some after) : p.rhs.length ≤ stack.length := by
  obtain ⟨children, next, hchildren, -, -⟩ := finish?_eq_some.mp h
  have hlength := congrArg List.length (symbols_of_ofFrames? hchildren)
  simp only [List.length_map, List.length_reverse, List.length_take] at hlength
  omega

/-! ### The fuel is enough -/

/-- A bound on the number of productions that can be finished in a row. -/
def weight : Stack → Nat
  | [] => 0
  | f :: fs => (Symbol.maxHeight + 1) * (fs.length + 1) - f.symbol.height

theorem weight_le (stack : Stack) : weight stack ≤ (Symbol.maxHeight + 1) * stack.length := by
  cases stack with
  | nil => exact Nat.le_refl _
  | cons f fs =>
    simp only [weight, List.length_cons]
    exact Nat.sub_le _ _

theorem lt_weight (f : Frame) (fs : List Frame) :
    (Symbol.maxHeight + 1) * fs.length < weight (f :: fs) := by
  have := f.symbol.height_le_maxHeight
  simp only [weight, Nat.mul_succ]
  omega

theorem weight_finish {p : Production} {stack after : Stack} (h : stack.finish? p = some after) :
    weight after < weight stack := by
  obtain ⟨children, next, hchildren, -, rfl⟩ := finish?_eq_some.mp h
  have hsymbols := symbols_of_ofFrames? hchildren
  have hlength := length_le_of_finish? h
  have hpos : p.rhs.length ≠ 0 := fun hzero => p.rhs_ne_nil (List.length_eq_zero_iff.mp hzero)
  obtain ⟨f, fs, rfl⟩ : ∃ f fs, stack = f :: fs := by
    cases stack with
    | nil =>
      simp only [List.length_nil] at hlength
      omega
    | cons f fs => exact ⟨f, fs, rfl⟩
  by_cases hone : p.rhs.length = 1
  · -- The one symbol on top gives way to a higher one.
    have hrhs : p.rhs = [f.symbol] := by
      rw [← hsymbols, hone]
      rfl
    have hheight := p.height_lt_of_single hrhs
    have hbound := (Symbol.n p.lhs).height_le_maxHeight
    simp only [weight, hone, List.drop_succ_cons, List.drop_zero, Nat.mul_succ]
    omega
  · have hshort : (List.drop p.rhs.length (f :: fs)).length + 1 ≤ fs.length := by
      simp only [List.length_drop, List.length_cons] at hlength ⊢
      omega
    have hmul := Nat.mul_le_mul_left (Symbol.maxHeight + 1) hshort
    have := lt_weight f fs
    simp only [weight] at this ⊢
    omega

theorem feedWithin_eq (l : Lexeme) {m n : Nat} {stack : Stack} (hm : weight stack < m)
    (hn : weight stack < n) : feedWithin m l stack = feedWithin n l stack := by
  induction m generalizing n stack with
  | zero => omega
  | succ m ih =>
    cases n with
    | zero => omega
    | succ n =>
      simp only [feedWithin]
      cases stack.row.shifts.lookup l.terminal with
      | some next => rfl
      | none =>
        cases stack.row.finish? l.terminal with
        | none => rfl
        | some p =>
          cases hafter : finish? p stack with
          | none => simp only [hafter]
          | some after =>
            have hlt := weight_finish hafter
            simp only [hafter]
            rw [@ih n after (by omega) (by omega)]

theorem weight_lt_finishBound (stack : Stack) : weight stack < finishBound stack := by
  have := weight_le stack
  simp only [finishBound, Nat.mul_succ]
  omega

/-! ### What one terminal does -/

variable {l : Lexeme} {stack : Stack}

theorem feed_eq : feed l stack = feedWithin (weight stack + 1) l stack :=
  feedWithin_eq l (weight_lt_finishBound stack) (Nat.lt_succ_self _)

theorem feed_shift {next : Automaton.State} (h : stack.row.shifts.lookup l.terminal = some next) :
    feed l stack = .shifted (⟨.t l.terminal, .leaf _ l.text, next⟩ :: stack) := by
  rw [feed_eq]
  simp only [feedWithin, h]

theorem feed_refuse (h : stack.row.shifts.lookup l.terminal = none)
    (h' : stack.row.finish? l.terminal = none) : feed l stack = .refused stack := by
  rw [feed_eq]
  simp only [feedWithin, h, h']

theorem feed_finish {p : Production} {after : Stack} (h : Finishes l.terminal p stack after)
    (hwhole : whole? after = none) : feed l stack = feed l after := by
  have hlt := weight_finish h.eq_after
  rw [@feed_eq l stack]
  simp only [feedWithin, h.unshifted, h.due, h.eq_after, hwhole]
  exact feedWithin_eq l hlt (weight_lt_finishBound after)

theorem feed_accept {p : Production} {after : Stack} {derivation : QueryDerivation}
    (h : Finishes l.terminal p stack after) (hwhole : whole? after = some derivation)
    (hend : l.terminal = .endOfInput) : feed l stack = .accepted derivation := by
  rw [feed_eq]
  simp only [feedWithin, h.unshifted, h.due, h.eq_after, hwhole, if_pos hend]

/-! ### Several tokens -/

/-- The stack after a sequence of tokens, if all of them are read. -/
def read : List Lexeme → Stack → Option Stack
  | [], stack => some stack
  | l :: w, stack =>
    if stack.row.sees l then
      match stack.feed l with
      | .shifted after => read w after
      | _ => none
    else none

/-- The stack after a sequence of tokens, if all of them are read and each passes a test at the state
in which it is read. -/
def readBy (passes : Automaton.Row → Lexeme → Bool) : List Lexeme → Stack → Option Stack
  | [], stack => some stack
  | l :: w, stack =>
    if passes stack.row l then
      match stack.feed l with
      | .shifted after => readBy passes w after
      | _ => none
    else none

section ReadBy

variable {passes : Automaton.Row → Lexeme → Bool}

theorem readBy_append (w w' : List Lexeme) (stack : Stack) :
    readBy passes (w ++ w') stack = (readBy passes w stack).bind (readBy passes w') := by
  induction w generalizing stack with
  | nil => rfl
  | cons l w ih =>
    simp only [List.cons_append, readBy]
    split
    · split
      · exact ih _
      · rfl
    · rfl

theorem readBy_shift {next : Automaton.State} {w : List Lexeme} (hpasses : passes stack.row l)
    (h : stack.row.shifts.lookup l.terminal = some next) :
    readBy passes (l :: w) stack =
      readBy passes w (⟨.t l.terminal, .leaf _ l.text, next⟩ :: stack) := by
  simp only [readBy, hpasses, if_true, feed_shift h]

end ReadBy

theorem read_eq_readBy (w : List Lexeme) (stack : Stack) :
    read w stack = readBy Automaton.Row.sees w stack := by
  induction w generalizing stack with
  | nil => rfl
  | cons l w ih =>
    simp only [read, readBy]
    split
    · split
      · exact ih _
      · rfl
    · rfl

end Stack
end JqFlow
