import JqFlow.Proofs.Reading.Respacing

/-!
# Queries inside queries

A query text that is read is read in the same way wherever a query may begin inside another one, up
to what breaks off its last word: it is cut into the same tokens, and they do to a stack what they do
to the empty one. Only a text that ends inside a comment has no end there.

## Main definitions

- `Stack.Opens`: may a query begin where a stack has come to?
- `Stack.Cuts`: a text begins with tokens that a stack reads

## Main statements

- `Stack.feed_append`: what a token does to a stack it does to it on top of another one
- `Stack.Cuts.above`: a text is cut in the same way where a query may begin
- `Query.exists_cuts_of_parse`: the tokens of a query text, before what breaks off its last word

## Design notes

What is expected where a query begins inside another one is what is expected at the beginning of a
text, and in some places a closing bracket or a colon. Neither begins a query, so a text is cut alike.
-/

namespace JqFlow

open Automaton (State)

/-! ### Where queries begin -/

namespace Automaton

/-- The terminals that may be expected where a query begins though none begins with them. -/
def closing : List Terminal :=
  [.closeBracket, .colon]

/-- Does a state do what the initial one does, but for what comes of a pipe and for terminals that
close? -/
def Row.embeds (r : Row) : Bool :=
  r.finish.isNone &&
    (r.shifts.all fun p => ((row 0).shifts.lookup p.1).isSome || closing.contains p.1) &&
    ((row 0).shifts.all fun p => r.shifts.lookup p.1 = some p.2) &&
    (row 0).gotos.all fun p => p.1 = .pipe || p.1 = .start || r.gotos.lookup p.1 = some p.2

theorem embeds_of_goto {state next : State} (h : (row state).gotos.lookup .pipe = some next) :
    (row state).embeds = true := by
  have hall : (rows.toList.all fun r => (r.gotos.lookup .pipe).isNone || r.embeds) = true := by
    decide +kernel
  have hrow := List.all_eq_true.mp hall _ (row_mem_of_goto h)
  simpa [h] using hrow

/-- A query is whole only at the end of the text. -/
theorem eq_endOfInput_of_start {state : State} {x : Terminal}
    (h : (row state).finish? x = some .start) : x = .endOfInput := by
  have hall : (rows.toList.all fun r => r.finish.all fun due =>
      due.1 != .start || due.2 == [.endOfInput]) = true := by
    decide +kernel
  have hrow := List.all_eq_true.mp hall _ (row_mem_of_due h)
  unfold Row.finish? at h
  cases hfinish : (row state).finish with
  | none => simp [hfinish] at h
  | some due =>
    obtain ⟨p, before⟩ := due
    simp only [hfinish] at h hrow
    split at h
    · next hbefore =>
      obtain rfl := Option.some.inj h
      have hend : before = [.endOfInput] := by simpa using hrow
      simpa [hend] using hbefore
    · exact absurd h (by simp)

end Automaton

namespace Stack

variable {stack below after : Stack} {l : Lexeme} {x : Terminal} {next : State}

/-- May a query begin where a stack has come to? -/
def Opens (stack : Stack) : Prop :=
  ∃ next, stack.row.gotos.lookup .pipe = some next

theorem Opens.embeds (h : below.Opens) : below.row.embeds = true := by
  obtain ⟨p, hp⟩ := h
  exact Automaton.embeds_of_goto hp

theorem Opens.shifts (h : below.Opens)
    (hshift : (Automaton.row 0).shifts.lookup x = some next) :
    below.row.shifts.lookup x = some next := by
  have hembeds := h.embeds
  simp only [Automaton.Row.embeds, Bool.and_eq_true] at hembeds
  obtain ⟨l₁, l₂, hsplit, -⟩ := List.lookup_eq_some_iff.mp hshift
  have hmem : (x, next) ∈ (Automaton.row 0).shifts := hsplit ▸ by simp
  simpa using List.all_eq_true.mp hembeds.1.2 _ hmem

theorem Opens.gotos (h : below.Opens) {x : Nonterminal} (hpipe : x ≠ .pipe) (hstart : x ≠ .start)
    (hgoto : (Automaton.row 0).gotos.lookup x = some next) :
    below.row.gotos.lookup x = some next := by
  have hembeds := h.embeds
  simp only [Automaton.Row.embeds, Bool.and_eq_true] at hembeds
  obtain ⟨l₁, l₂, hsplit, -⟩ := List.lookup_eq_some_iff.mp hgoto
  have hmem : (x, next) ∈ (Automaton.row 0).gotos := hsplit ▸ by simp
  simpa [hpipe, hstart] using List.all_eq_true.mp hembeds.2 _ hmem

/-- Nothing more is expected than at the beginning of a text but terminals that close. -/
theorem Opens.expects (h : below.Opens) (hx : x ∉ Automaton.closing) :
    below.row.expects x = (Automaton.row 0).expects x := by
  have hnone : (Automaton.row 0).finish = none := by decide +kernel
  have hembeds := h.embeds
  simp only [Automaton.Row.embeds, Bool.and_eq_true, Option.isNone_iff_eq_none] at hembeds
  simp only [Automaton.Row.expects, Automaton.Row.finish?, hnone, hembeds.1.1.1]
  cases hshift : (Automaton.row 0).shifts.lookup x with
  | some next => rw [h.shifts hshift]
  | none =>
    cases hshift' : below.row.shifts.lookup x with
    | none => rfl
    | some next =>
      obtain ⟨l₁, l₂, hsplit, -⟩ := List.lookup_eq_some_iff.mp hshift'
      have hmem : (x, next) ∈ below.row.shifts := hsplit ▸ by simp
      have hshifted := List.all_eq_true.mp hembeds.1.1.2 _ hmem
      simp [hshift, hx] at hshifted

/-! ### Stacks on top of others -/

/-- What is finished on a stack is finished where it stands on top of another one, as long as it is
not a whole query. -/
theorem finish?_append (hbelow : below.Opens) {p : Production} (h : stack.finish? p = some after)
    (hp : stack.drop p.rhs.length ≠ [] ∨ p.lhs ≠ .pipe ∧ p.lhs ≠ .start) :
    finish? p (stack ++ below) = some (after ++ below) := by
  have hlength := length_le_of_finish? h
  obtain ⟨children, next, hframes, hnext, rfl⟩ := finish?_eq_some.mp h
  refine finish?_eq_some.mpr ⟨children, next, ?_, ?_, ?_⟩
  · rwa [List.take_append_of_le_length hlength]
  · rw [List.drop_append_of_le_length hlength]
    cases hdrop : stack.drop p.rhs.length with
    | nil =>
      obtain ⟨hpipe, hstart⟩ := hp.resolve_left fun hne => hne hdrop
      rw [hdrop] at hnext
      exact hbelow.gotos hpipe hstart hnext
    | cons f fs =>
      rw [hdrop] at hnext
      exact hnext
  · rw [List.drop_append_of_le_length hlength]
    rfl

theorem Finishes.lhs_ne_start {p : Production} (h : Finishes x p stack after)
    (hx : x ≠ .endOfInput) : p.lhs ≠ .start := by
  intro hstart
  obtain rfl := Production.eq_start hstart
  exact hx (Automaton.eq_endOfInput_of_start h.due)

theorem Finishes.whole?_eq_none {p : Production} (h : Finishes x p stack after)
    (hx : x ≠ .endOfInput) (below : Stack) : whole? (after ++ below) = none := by
  obtain ⟨children, next, -, -, rfl⟩ := finish?_eq_some.mp h.eq_after
  exact Stack.whole?_eq_none (by simpa using h.lhs_ne_start hx) _ _ _

theorem Finishes.stack_ne_nil {p : Production} (h : Finishes x p stack after) : stack ≠ [] := by
  rintro rfl
  have hnone : (row []).finish = none := by
    show (Automaton.row 0).finish = none
    decide +kernel
  have hdue := h.due
  simp [Automaton.Row.finish?, hnone] at hdue

theorem Finishes.append (hbelow : below.Opens) {p : Production} (h : Finishes x p stack after)
    (hp : stack.drop p.rhs.length ≠ [] ∨ p.lhs ≠ .pipe ∧ p.lhs ≠ .start) :
    Finishes x p (stack ++ below) (after ++ below) := by
  obtain ⟨f, fs, rfl⟩ := List.exists_cons_of_ne_nil h.stack_ne_nil
  exact ⟨h.unshifted, h.due, finish?_append hbelow h.eq_after hp⟩

/-- A token is shifted after productions have been finished one after another. -/
theorem exists_settles_of_feedWithin {n : Nat} (hl : l.terminal ≠ .endOfInput)
    (h : feedWithin n l stack = .shifted after) :
    ∃ (middle : Stack) (next : State), Settles l stack middle ∧
      middle.row.shifts.lookup l.terminal = some next ∧
      after = ⟨.t l.terminal, .leaf _ l.text, next⟩ :: middle := by
  -- By induction on the bound for the productions: each one that is finished is a step.
  induction n generalizing stack with
  | zero => exact absurd h (by simp [feedWithin])
  | succ n ih =>
    rw [feedWithin] at h
    cases hshift : stack.row.shifts.lookup l.terminal with
    | some next =>
      simp only [hshift, Fed.shifted.injEq] at h
      exact ⟨stack, next, .refl _, hshift, h.symm⟩
    | none =>
      cases hdue : stack.row.finish? l.terminal with
      | none => simp [hshift, hdue] at h
      | some p =>
        cases hfinish : finish? p stack with
        | none => simp [hshift, hdue, hfinish] at h
        | some next =>
          have hfinishes : Finishes l.terminal p stack next := ⟨hshift, hdue, hfinish⟩
          have hpart := hfinishes.whole?_eq_none hl []
          rw [List.append_nil] at hpart
          simp only [hshift, hdue, hfinish, hpart] at h
          obtain ⟨middle, state, hsettles, htop⟩ := ih h
          exact ⟨middle, state, .step hfinishes hpart hsettles, htop⟩

/-- After a query that is whole nothing can be read. -/
theorem Settles.refuses_whole (hl : l.terminal ≠ .endOfInput) {f : Frame} (hf : f.state = 2)
    (h : Settles l [f] after) : after.row.shifts.lookup l.terminal = none := by
  have hrow : row [f] = Automaton.row 2 := congrArg Automaton.row hf
  have hshifts : (Automaton.row 2).shifts = [] := by decide +kernel
  have hfinish : (Automaton.row 2).finish = some (.start, [.endOfInput]) := by decide +kernel
  cases h with
  | refl => rw [hrow, hshifts, List.lookup_nil]
  | step first =>
    have hdue := first.due
    simp [hrow, Automaton.Row.finish?, hfinish, hl] at hdue

/-- Before a token that is shifted in the end, the same productions are finished on top of another
stack, where a query may begin. -/
theorem Settles.append (hbelow : below.Opens) (hl : l.terminal ≠ .endOfInput)
    (h : Settles l stack after) (hshift : after.row.shifts.lookup l.terminal = some next) :
    Settles l (stack ++ below) (after ++ below) := by
  induction h with
  | refl => exact .refl _
  | @step p stack middle after first _ rest ih =>
    refine .step (first.append hbelow ?_) (first.whole?_eq_none hl below) (ih hshift)
    rw [or_iff_not_imp_left, not_not]
    refine fun hdrop => ⟨fun hpipe => ?_, first.lhs_ne_start hl⟩
    -- A pipe at the bottom is a whole query.
    have hgoto : (Automaton.row 0).gotos.lookup .pipe = some 2 := by decide +kernel
    obtain ⟨children, state, -, hstate, rfl⟩ := finish?_eq_some.mp first.eq_after
    rw [hdrop, hpipe] at hstate
    obtain rfl : 2 = state := Option.some.inj (hgoto.symm.trans hstate)
    rw [hdrop] at rest
    exact absurd (hshift.symm.trans (rest.refuses_whole hl rfl)) (by simp)

/-- What a token does to a stack it does to it on top of another one, where a query may begin. -/
theorem feed_append (hbelow : below.Opens) (hl : l.terminal ≠ .endOfInput)
    (h : stack.feed l = .shifted after) : feed l (stack ++ below) = .shifted (after ++ below) := by
  obtain ⟨middle, next, hsettles, hshift, rfl⟩ := exists_settles_of_feedWithin hl h
  rw [(hsettles.append hbelow hl hshift).feed]
  cases middle with
  | nil => exact feed_shift (hbelow.shifts hshift)
  | cons f fs => exact feed_shift hshift

end Stack

/-! ### Cutting a text at the bottom and on top -/

/-- What is scanned depends only on which of the terminals that match are expected. -/
theorem scan?_eq_of_expects {expects expects' : Terminal → Bool} {t : Text}
    (h : ∀ x : Terminal, x.match? t ≠ none → expects x = expects' x) :
    scan? expects t = scan? expects' t := by
  unfold scan?
  congr 1
  funext x
  cases hmatch : x.match? t with
  | none => simp
  | some text =>
    have hpromote (hident : x = .ident) : promote expects text = promote expects' text := by
      unfold promote
      cases hk : Terminal.keyword? text with
      | none => rfl
      | some k =>
        -- A keyword matches where a name of its spelling does.
        obtain ⟨-, hliteral⟩ := Terminal.keyword?_eq_some hk
        have hkeyword : k.match? t ≠ none := by
          rw [Terminal.match?_literal hliteral, if_pos (Terminal.match?_isPrefix hmatch)]
          exact Option.some_ne_none text
        simp only [h k hkeyword]
    simp only [h x (by simp [hmatch]), Option.map_some]
    by_cases hident : x = .ident
    · simp only [if_pos hident, hpromote hident]
    · simp only [if_neg hident]

/-- No other terminal begins as one that closes does. -/
theorem Terminal.eq_of_begins_closing {x y : Terminal} {c : CodePoint}
    (hx : x ∈ Automaton.closing) (hbegins : x.begins c = true) (hy : y.begins c = true) : y = x := by
  have hcases : x = .closeBracket ∨ x = .colon := by simpa [Automaton.closing] using hx
  rcases hcases with rfl | rfl
  all_goals
    obtain rfl := Option.some.inj (of_decide_eq_true hbegins)
    revert hy
    cases y <;> decide

namespace Stack

variable {stack below after final : Stack} {t r g : Text} {w w' : List Lexeme}

/-- Where a query may begin, its first token is scanned as at the beginning of a text. -/
theorem Opens.scan? (hbelow : below.Opens) {l : Lexeme}
    (h : scan? (Automaton.row 0).expects t = some l) : JqFlow.scan? below.row.expects t = some l := by
  obtain ⟨y, -, hy, hmatch, -⟩ := exists_match_of_scan? h
  rw [← h]
  refine scan?_eq_of_expects fun x hx => hbelow.expects fun hclosing => ?_
  cases t with
  | nil => exact scan?_ne_nil h (List.prefix_nil.mp (Terminal.match?_isPrefix hmatch))
  | cons c t =>
    obtain ⟨text, hmatch'⟩ := Option.ne_none_iff_exists'.mp hx
    obtain rfl := Terminal.eq_of_begins_closing hclosing (Terminal.begins_of_match? hmatch')
      (Terminal.begins_of_match? hmatch)
    have hnone : Automaton.closing.all fun x =>
        !(Automaton.row 0).expects x && !Terminal.ignored.contains x := by
      decide +kernel
    have hx := List.all_eq_true.mp hnone y hclosing
    rcases hy with hy | hy <;> simp [hy] at hx

/-- A text begins with tokens that a stack reads one after another, each after a gap. -/
inductive Cuts : Stack → Text → List Lexeme → Stack → Text → Prop
  | nil (stack : Stack) (t : Text) : Cuts stack t [] stack t
  | token {stack after final : Stack} {g r rest : Text} {l : Lexeme} {w : List Lexeme}
    (hgap : Gap g) (hscan : JqFlow.scan? stack.row.expects (l.text ++ r) = some l)
    (hkept : l.terminal ∉ Terminal.ignored) (hfeed : stack.feed l = .shifted after)
    (hrest : Cuts after r w final rest) : Cuts stack (g ++ (l.text ++ r)) (l :: w) final rest

namespace Cuts

theorem append {t' : Text} (h : Cuts stack t w after t') (h' : Cuts after t' w' final r) :
    Cuts stack t (w ++ w') final r := by
  induction h with
  | nil => exact h'
  | token hgap hscan hkept hfeed _ ih => exact .token hgap hscan hkept hfeed (ih h')

/-- The stack reads the tokens. -/
theorem take_eq (h : Cuts stack t w after r) : stack.take w = some after := by
  induction h with
  | nil => rfl
  | token _ _ _ hfeed _ ih => simpa only [take, readBy, hfeed, if_true] using ih

/-- A gap may come before the first token. -/
theorem gap (hg : Gap g) (h : Cuts stack t w after r) (hw : w ≠ []) :
    Cuts stack (g ++ t) w after r := by
  cases h with
  | nil => exact absurd rfl hw
  | token hgap hscan hkept hfeed hrest =>
    rw [← List.append_assoc]
    exact .token (hg.append hgap) hscan hkept hfeed hrest

/-- A text of which nothing is left but a gap is cut into the tokens. -/
theorem splits (h : Cuts stack t w after r) (hr : Gap r) : Splits stack t w := by
  induction h with
  | nil => exact .atEnd (nextWord_allGap hr)
  | token hgap hscan hkept hfeed _ ih =>
    exact .token (nextWord_gap_token hgap hscan hkept) hfeed (ih hr)

/-- A text is cut in the same way where a query may begin. -/
theorem above (hbelow : below.Opens) (h : Cuts stack t w after r) :
    Cuts (stack ++ below) t w (after ++ below) r := by
  induction h with
  | nil => exact .nil _ _
  | @token stack after final g r rest l w hgap hscan hkept hfeed _ ih =>
    -- Only the first token is scanned where other terminals are expected than before.
    refine .token hgap ?_ hkept (feed_append hbelow (scan?_ne_endOfInput hscan) hfeed) ih
    cases stack with
    | nil => exact hbelow.scan? hscan
    | cons f fs => exact hscan

end Cuts

/-! ### The end of a query text -/

/-- A query text is cut into its tokens before whatever breaks off its last word, or it ends inside a
comment, to which a bracket after it would belong. -/
theorem Respaced.run_or_cuts {t' : Text} {d : QueryDerivation} (h : Respaced stack t t')
    (hrun : stack.run t = some d) : stack.run (t ++ "]") = some d ∨
      ∃ w after g, Gap g ∧ after.feed endToken = .accepted d ∧
        ∀ r : Text, r.Breaks → Cuts stack (t ++ r) w after (g ++ r) := by
  induction h with
  | @token stack after g g' r r' l hgap hscan hkept hfeed hrest ih =>
    rw [run_token hgap.left hscan hkept hfeed] at hrun
    -- A name before a lone colon could go on after it, but no text ends there.
    have hnot : r ≠ ":" := by
      rintro rfl
      exact absurd ((run_colon after).symm.trans hrun) (by simp)
    have hscan' {s : Text} (hs : s.Breaks) :
        JqFlow.scan? stack.row.expects (l.text ++ (r ++ s)) = some l :=
      scan?_before_breaks (r := []) hs (fun _ => hnot) hkept (by rwa [List.append_nil])
    have hassoc (s : Text) : g ++ (l.text ++ r) ++ s = g ++ (l.text ++ (r ++ s)) := by
      simp only [List.append_assoc]
    rcases ih hrun with hcomment | ⟨w, final, g₁, hg₁, hend, hcuts⟩
    · have hbracket : Text.Breaks "]" := ⟨by decide, by simp⟩
      refine .inl ?_
      rw [hassoc, run_token hgap.left (hscan' hbracket) hkept hfeed, hcomment]
    · refine .inr ⟨l :: w, final, g₁, hg₁, hend, fun s hs => ?_⟩
      rw [hassoc]
      exact .token hgap.left (hscan' hs) hkept hfeed (hcuts s hs)
  | @atEnd stack g g' hgap =>
    rw [Stack.run_eq, nextWord_allGap hgap.left] at hrun
    exact .inr ⟨[], stack, g, hgap.left, Fed.accepted?_eq_some_iff.mp hrun, fun r _ => .nil _ _⟩
  | @lastComment stack g g' body x hgap hbody hx =>
    refine .inl ?_
    have hbody' : CodePoint.scalar '\n' ∉ body ++ "]" := by
      simp [hbody, Text.ofString]
    rw [Stack.run_eq, nextWord_gap hgap.left, nextWord_lastComment hbody] at hrun
    rw [List.append_assoc, List.cons_append, Stack.run_eq, nextWord_gap hgap.left,
      nextWord_lastComment hbody', hrun]

/-- Before what may come after a pipe, the tokens of one put it on a stack. -/
theorem settles_of_take {d : Derivation (.n .pipe)} {next : State} {l : Lexeme} (hd : d.Nearest)
    (hnext : below.row.gotos.lookup .pipe = some next) (htake : below.take d.yield = some after)
    (hl : l.terminal ∈ Automaton.afterPipe) : Settles l after (⟨.n .pipe, d, next⟩ :: below) := by
  have hprecedes : Automaton.precedes below.row.isWide [l.terminal] (.n .pipe) = true := by
    simpa [Automaton.precedes, Automaton.follow] using hl
  have hcatch : l.terminal ≠ .kwCatch := fun h => absurd (h ▸ hl) (by decide)
  have hsteady : Steady fun _ _ => true := fun _ => rfl
  obtain ⟨before, hbefore, hsettles⟩ := d.readBy_yield hsteady (by decide) hd hnext
    (d.passes_true _) hprecedes fun _ => hcatch
  obtain rfl := Option.some.inj (hbefore.symm.trans htake)
  exact hsettles

end Stack

namespace Query

open Stack (Cuts)

variable {t : Text} {q : Query}

/-- A query text does not begin with a colon. -/
theorem head_ne_colon_of_parse (h : parse t = .ok q) : t.head? ≠ some (.scalar ':') := by
  cases t with
  | nil => exact Option.some_ne_none _ |>.symm
  | cons c t =>
    rintro hc
    obtain rfl := Option.some.inj hc
    cases hblank : Text.isBlank (.scalar ':' :: t) with
    | true => simp [parse, hblank] at h
    | false =>
      obtain ⟨d, hrun, -⟩ := (parse_eq_ok_iff hblank).mp h
      have hcolon : (Stack.row []).expects .colon = false := by
        show (Automaton.row 0).expects .colon = false
        decide +kernel
      exact absurd ((Stack.run_no_colon hcolon t).symm.trans hrun) (by simp)

/-- A query text that does not end inside a comment has the same tokens wherever a query may begin,
before whatever breaks off its last word, and they are those of its derivation. -/
theorem exists_cuts_of_parse (h : parse t = .ok q) (hclosed : ∀ q', parse (t ++ "]") ≠ .ok q') :
    ∃ (d : Derivation (.n .pipe)) (g : Text), d.eval = q ∧ d.Nearest ∧ Gap g ∧
      ∀ below : Stack, below.Opens → ∀ r : Text, r.Breaks →
        ∃ after, Cuts below (t ++ r) d.yield after (g ++ r) := by
  cases hblank : t.isBlank with
  | true => simp [parse, hblank] at h
  | false =>
    obtain ⟨whole, hrun, heval⟩ := (parse_eq_ok_iff hblank).mp h
    rcases (Stack.respaced_self hrun).run_or_cuts hrun with hcomment | ⟨w, after, g, hg, hend, hcuts⟩
    · have hblank' : Text.isBlank (t ++ "]") = false := by
        rw [Text.isBlank, List.all_append, Bool.and_eq_false_iff]
        exact .inl hblank
      exact absurd ((parse_eq_ok_iff hblank').mpr ⟨whole, hcomment, rfl⟩) (hclosed _)
    · have haccept : Stack.accept? w [] = some whole := by
        rw [Stack.accept?, (hcuts [] trivial).take_eq, Option.bind_some, hend]
        rfl
      obtain ⟨rfl, hnearest⟩ := Stack.accept?_eq_some_iff.mp haccept
      obtain ⟨d, hd⟩ := whole.exists_pipe rfl
      obtain rfl := eq_of_heq hd
      refine ⟨d, g, heval, hnearest.1, hg, fun below hbelow r hr => ⟨after ++ below, ?_⟩⟩
      have habove := (hcuts r hr).above hbelow
      simpa [Derivation.yield, Forest.yield] using habove

end Query

end JqFlow
