import JqFlow.Proofs.Reading.Catches

/-!
# The language of the automaton

The automaton makes a derivation of exactly those sequences of tokens that are derived from the
start of the grammar, and it makes the one in which every `catch` belongs to the nearest `try`. There
is only one such derivation.

## Main definitions

- `Stack.yield`: the tokens that have been read
- `Stack.accept?`: what the automaton makes of a sequence of tokens

## Main statements

- `Stack.yield_readBy`: reading adds the tokens to those that have been read
- `Stack.accept?_eq_some_iff`: which derivation the automaton makes
- `QueryDerivation.existsUnique_nearest`: there is only one such derivation
- `QueryDerivation.eq_of_yield`: without a `catch` there is only one derivation

## Design notes

Tokens are taken as they are here: which of them a text is cut into, and where a name is a keyword,
is another question.
-/

namespace JqFlow

/-- The derivations in frames derive the tokens of the forest that is made of them. -/
theorem Forest.yield_of_ofFrames? {ss : List Symbol} {fs : List Frame} {children : Forest ss}
    (h : Forest.ofFrames? ss fs = some children) :
    children.yield = fs.flatMap fun f => f.derivation.yield := by
  induction ss generalizing fs with
  | nil =>
    cases fs with
    | nil =>
      obtain rfl := Option.some.inj h
      rfl
    | cons => exact absurd h (by simp [Forest.ofFrames?])
  | cons s ss ih =>
    cases fs with
    | nil => exact absurd h (by simp [Forest.ofFrames?])
    | cons f fs =>
      obtain ⟨symbol, d, state⟩ := f
      rw [Forest.ofFrames?] at h
      split at h
      · next hsymbol =>
        obtain ⟨rest, hrest, rfl⟩ := Option.map_eq_some_iff.mp h
        dsimp only at hsymbol
        subst hsymbol
        rw [Forest.yield, ih hrest, List.flatMap_cons]
      · exact absurd h (by simp)

namespace Stack

variable {l : Lexeme} {stack after : Stack}

/-- The tokens that have been read, in order. -/
def yield (stack : Stack) : List Lexeme :=
  stack.reverse.flatMap fun f => f.derivation.yield

theorem yield_cons (f : Frame) (stack : Stack) :
    yield (f :: stack) = stack.yield ++ f.derivation.yield := by
  rw [yield, List.reverse_cons, List.flatMap_append, List.flatMap_singleton, yield]

/-- Finishing a production reads nothing. -/
theorem yield_finish {p : Production} (h : stack.finish? p = some after) :
    after.yield = stack.yield := by
  obtain ⟨children, next, hchildren, -, rfl⟩ := finish?_eq_some.mp h
  have hsplit : (stack.drop p.rhs.length).reverse ++ (stack.take p.rhs.length).reverse =
      stack.reverse := by
    rw [← List.reverse_append, List.take_append_drop]
  rw [yield_cons, Derivation.yield, Forest.yield_of_ofFrames? hchildren, yield, yield, ← hsplit,
    List.flatMap_append]

theorem yield_whole {d : QueryDerivation} (h : whole? stack = some d) : d.yield = stack.yield := by
  unfold whole? at h
  split at h
  · obtain rfl := Option.some.inj h
    rw [yield_cons]
    rfl
  · exact absurd h (by simp)

/-- A token that is read is added to those that have been read; a query that is whole has derived
them. -/
theorem feedWithin_yield {n : Nat} :
    (∀ after, feedWithin n l stack = .shifted after → after.yield = stack.yield ++ [l]) ∧
      ∀ d, feedWithin n l stack = .accepted d → d.yield = stack.yield := by
  -- The induction is on the fuel: what is finished before the token leaves what has been read.
  induction n generalizing stack with
  | zero =>
    rw [feedWithin]
    exact ⟨by simp, by simp⟩
  | succ n ih =>
    rw [feedWithin]
    cases hshift : stack.row.shifts.lookup l.terminal with
    | some next =>
      refine ⟨fun after hafter => ?_, by simp⟩
      obtain rfl := Fed.shifted.inj hafter
      exact yield_cons _ _
    | none =>
      cases hdue : stack.row.finish? l.terminal with
      | none => exact ⟨by simp, by simp⟩
      | some p =>
        cases hfinish : finish? p stack with
        | none =>
          simp only [hfinish]
          exact ⟨by simp, by simp⟩
        | some next =>
          obtain ⟨hshifted, haccepted⟩ := @ih next
          rw [yield_finish hfinish] at hshifted haccepted
          simp only [hfinish]
          -- A query that is whole ends here if the text does, else the token is fed again.
          cases hwhole : whole? next with
          | none => exact ⟨hshifted, haccepted⟩
          | some d =>
            simp only
            split
            · refine ⟨by simp, fun d' hd' => ?_⟩
              obtain rfl := Fed.accepted.inj hd'
              rw [yield_whole hwhole, yield_finish hfinish]
            · exact ⟨hshifted, haccepted⟩

/-- Reading adds the tokens to those that have been read. -/
theorem yield_readBy {passes : Automaton.Row → Lexeme → Bool} {w : List Lexeme}
    (h : readBy passes w stack = some after) : after.yield = stack.yield ++ w := by
  induction w generalizing stack with
  | nil =>
    obtain rfl := Option.some.inj h
    rw [List.append_nil]
  | cons l w ih =>
    rw [readBy] at h
    split at h
    · split at h
      · next stack' hfeed =>
        rw [ih h, feedWithin_yield.1 _ hfeed, List.append_assoc]
        rfl
      · exact absurd h (by simp)
    · exact absurd h (by simp)

/-! ### What the automaton makes of tokens -/

/-- The stack after a sequence of tokens, whatever they are taken for. -/
def take (w : List Lexeme) (stack : Stack) : Option Stack :=
  readBy (fun _ _ => true) w stack

/-- The derivation that the automaton makes of a sequence of tokens and the end. -/
def accept? (w : List Lexeme) (stack : Stack) : Option QueryDerivation :=
  (take w stack).bind fun after => (after.feed endToken).accepted?

theorem accept?_nil (stack : Stack) : accept? [] stack = (stack.feed endToken).accepted? :=
  rfl

theorem accept?_cons_shifted {w : List Lexeme} (h : stack.feed l = .shifted after) :
    accept? (l :: w) stack = accept? w after := by
  simp only [accept?, take, readBy, h, if_true]

theorem accept?_cons_eq_none {w : List Lexeme} (h : ∀ after, stack.feed l ≠ .shifted after) :
    accept? (l :: w) stack = none := by
  cases hfeed : stack.feed l with
  | shifted after => exact absurd hfeed (h after)
  | accepted d => simp only [accept?, take, readBy, hfeed, if_true, Option.bind_none]
  | refused s => simp only [accept?, take, readBy, hfeed, if_true, Option.bind_none]

/-- What the automaton makes of tokens derives them. -/
theorem yield_of_accept? {w : List Lexeme} {d : QueryDerivation} (h : accept? w [] = some d) :
    d.yield = w := by
  obtain ⟨after, htake, haccepted⟩ := Option.bind_eq_some_iff.mp h
  rw [feedWithin_yield.2 d (Fed.accepted?_eq_some_iff.mp haccepted), yield_readBy htake]
  rfl

end Stack

/-! ### Which derivation the automaton makes -/

mutual

theorem Derivation.passes_true {s : Symbol} (d : Derivation s) (state : Automaton.State) :
    d.Passes (fun _ _ => true) state := by
  match d with
  | .leaf .. => rfl
  | .node _ children => exact children.passes_true state

theorem Forest.passes_true {ss : List Symbol} (f : Forest ss) (state : Automaton.State) :
    f.Passes (fun _ _ => true) state := by
  match f with
  | .nil => trivial
  | .cons first rest => exact ⟨first.passes_true state, rest.passes_true _⟩

end

theorem Production.eq_start {p : Production} (h : p.lhs = .start) : p = .start := by
  cases p <;> first
    | rfl
    | exact absurd h (by decide)

/-- A query is a pipe. -/
theorem Derivation.exists_pipe {s : Symbol} (d : Derivation s) (hs : s = .n .start) :
    ∃ pipe : Derivation (.n .pipe), HEq d (Derivation.node .start (.cons pipe .nil)) := by
  match d with
  | .leaf .. => exact absurd hs (by simp)
  | .node p children =>
    obtain rfl := Production.eq_start (Symbol.n.inj hs)
    match children with
    | .cons pipe .nil => exact ⟨pipe, .rfl⟩

namespace Stack

variable {w : List Lexeme} {d : QueryDerivation}

/-- A derivation in which every `catch` belongs to the nearest `try` is made of its own tokens. -/
theorem accept?_yield (hd : d.Nearest) : accept? d.yield [] = some d := by
  obtain ⟨pipe, hpipe⟩ := d.exists_pipe rfl
  obtain rfl := eq_of_heq hpipe
  obtain ⟨before, htake, -, haccepted⟩ :=
    feed_readBy_end (fun _ => rfl) pipe hd.1 (pipe.passes_true 0)
  show accept? (pipe.yield ++ []) [] = _
  rw [List.append_nil, accept?, take, htake, Option.bind_some, haccepted]
  rfl

/-- The automaton makes the derivation of the tokens in which every `catch` belongs to the nearest
`try`. -/
theorem accept?_eq_some_iff : accept? w [] = some d ↔ d.yield = w ∧ d.Nearest := by
  constructor
  · intro h
    refine ⟨yield_of_accept? h, ?_⟩
    -- The automaton would make the derivation of the same tokens that is the nearest.
    obtain ⟨d', hnearest, hyield⟩ := d.exists_nearest
    have hsame := accept?_yield hnearest
    rw [hyield, yield_of_accept? h, h] at hsame
    exact Option.some.inj hsame ▸ hnearest
  · rintro ⟨rfl, hd⟩
    exact accept?_yield hd

end Stack

/-- What is derived has one derivation in which every `catch` belongs to the nearest `try`. -/
theorem QueryDerivation.existsUnique_nearest (d : QueryDerivation) :
    ∃! d' : QueryDerivation, d'.yield = d.yield ∧ d'.Nearest := by
  obtain ⟨d', hnearest, hyield⟩ := d.exists_nearest
  refine ⟨d', ⟨hyield, hnearest⟩, fun d'' h => ?_⟩
  have h' : Stack.accept? d.yield [] = some d' := Stack.accept?_eq_some_iff.mpr ⟨hyield, hnearest⟩
  exact Option.some.inj ((Stack.accept?_eq_some_iff.mpr h).symm.trans h')

/-- Tokens without a `catch` have one derivation: nothing but a `catch` can be read in two ways. -/
theorem QueryDerivation.eq_of_yield {d d' : QueryDerivation} (h : d'.yield = d.yield)
    (hcatch : ∀ l ∈ d.yield, l.terminal ≠ .kwCatch) : d' = d :=
  (existsUnique_nearest d).unique ⟨h, d'.nearest_of_yield (h ▸ hcatch)⟩
    ⟨rfl, d.nearest_of_yield hcatch⟩

end JqFlow
