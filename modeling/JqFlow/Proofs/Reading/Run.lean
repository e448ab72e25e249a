import JqFlow.Proofs.Reading.Complete

/-!
# A run of the automaton over a text

What comes of a query text depends on the stack and on the text that is left, not on the position,
the fuel or what is kept for error messages.

## Main definitions

- `Word`, `nextWord`: what comes next in a text, with the text after it
- `Stack.run`: the derivation that a run from a stack ends with

## Main statements

- `Stack.run_eq`: one step of a run
- `parse_eq_run`: a query text is read by a run from the empty stack
-/

namespace JqFlow

namespace Terminal

theorem literal?_ne_nil {x : Terminal} {t : Text} (h : x.literal? = some t) : t ≠ [] := by
  rintro rfl
  cases x <;> simp [literal?, Text.ofString] at h

/-- A terminal that is always spelled the same matches where its spelling stands. -/
theorem match?_literal {x : Terminal} {literal : Text} (h : x.literal? = some literal) (t : Text) :
    x.match? t = if literal <+: t then some literal else none := by
  unfold match?
  split <;> first
    | simp [h, List.isPrefixOf_iff_prefix]
    | exact absurd h (by simp [literal?])

/-- What matches a terminal is never empty. -/
theorem match?_ne_nil {x : Terminal} {t text : Text} (h : x.match? t = some text) : text ≠ [] := by
  rintro rfl
  unfold match? at h
  split at h
  · cases t <;> simp [Spelling.signed?] at h
  · cases t <;> simp [Spelling.signed?] at h
  · unfold Spelling.format? at h
    split at h <;> simp at h
  · simp only [Spelling.name?, Option.map_eq_some_iff] at h
    obtain ⟨first, hfirst, happend⟩ := h
    cases t <;> simp_all [Spelling.plainName?]
  · simp only [Spelling.number?] at h
    split at h <;> simp_all
  · unfold Spelling.string? at h
    split at h <;> simp at h
  · simp only [Spelling.blanks?] at h
    split at h <;> simp_all
  · unfold Spelling.comment? at h
    split at h <;> simp at h
  · obtain ⟨literal, hliteral, h⟩ := Option.bind_eq_some_iff.mp h
    split at h
    · exact literal?_ne_nil hliteral (Option.some.inj h)
    · exact absurd h (by simp)

theorem keyword?_eq_some {word : Text} {k : Terminal} (h : keyword? word = some k) :
    k ∈ keywords ∧ k.literal? = some word := by
  refine ⟨List.mem_of_find?_eq_some h, ?_⟩
  simpa using List.find?_some h

end Terminal

/-- A token that is scanned is a match of a terminal that was tried, or a name that is a keyword. -/
theorem exists_match_of_scan? {expects : Terminal → Bool} {t : Text} {l : Lexeme}
    (h : scan? expects t = some l) :
    ∃ x ∈ Terminal.inMatchOrder, (expects x = true ∨ x ∈ Terminal.ignored) ∧
      x.match? t = some l.text ∧ (l.terminal = x ∨
        x = .ident ∧ l.terminal ∈ Terminal.keywords ∧ l.terminal.literal? = some l.text) := by
  obtain ⟨x, hx, hscan⟩ := List.exists_of_findSome?_eq_some h
  split at hscan
  · next htried =>
    obtain ⟨text, hmatch, rfl⟩ := Option.map_eq_some_iff.mp hscan
    refine ⟨x, hx, by simpa using htried, hmatch, ?_⟩
    by_cases hident : x = .ident
    · subst hident
      simp only [if_true, promote]
      cases hk : Terminal.keyword? text with
      | none => exact .inl rfl
      | some k =>
        by_cases hexpects : expects k = true
        · simp only [hexpects, if_true]
          exact .inr ⟨trivial, Terminal.keyword?_eq_some hk⟩
        · simp only [hexpects]
          exact .inl rfl
    · exact .inl (if_neg hident)
  · exact absurd hscan (by simp)

theorem scan?_ne_nil {expects : Terminal → Bool} {t : Text} {l : Lexeme}
    (h : scan? expects t = some l) : l.text ≠ [] := by
  obtain ⟨x, -, -, hmatch, -⟩ := exists_match_of_scan? h
  exact Terminal.match?_ne_nil hmatch

/-- What comes next, without positions: a token with the text after it, the end, or nothing that is
expected. -/
inductive Word
  | token (lexeme : Lexeme) (rest : Text)
  | atEnd
  | stuck
  deriving DecidableEq

/-- What comes next, without its position. -/
def Next.word : Next → Word
  | token t after => .token t.lexeme after.rest
  | atEnd => .atEnd
  | stuck _ => .stuck

namespace Cursor

theorem nextWithin_word (expects : Terminal → Bool) {m n : Nat} {c c' : Cursor}
    (h : c.rest = c'.rest) (hm : c.rest.length < m) (hn : c.rest.length < n) :
    (nextWithin expects m c).word = (nextWithin expects n c').word := by
  induction m generalizing n c c' with
  | zero => omega
  | succ m ih =>
    cases n with
    | zero => omega
    | succ n =>
      simp only [nextWithin, ← h]
      by_cases hempty : c.rest = []
      · simp [hempty, Next.word]
      · rw [if_neg hempty, if_neg hempty]
        cases hscan : scan? expects c.rest with
        | none => rfl
        | some l =>
          have hpos := List.length_pos_iff.mpr hempty
          have hl := List.length_pos_iff.mpr (scan?_ne_nil hscan)
          simp only
          split
          · refine ih ?_ ?_ ?_
            · simp [skip, h]
            · simp only [skip, List.length_drop]
              omega
            · simp only [skip, List.length_drop]
              omega
          · simp [Next.word, skip, h]

end Cursor

/-- The word at the beginning of a text, of those that are expected, after what stands between
words. -/
def nextWord (expects : Terminal → Bool) (t : Text) : Word :=
  (Cursor.next expects ⟨.start, t⟩).word

theorem Cursor.next_word (expects : Terminal → Bool) (c : Cursor) :
    (c.next expects).word = nextWord expects c.rest :=
  nextWithin_word expects rfl (Nat.lt_succ_self _) (Nat.lt_succ_self _)

theorem nextWord_nil (expects : Terminal → Bool) : nextWord expects [] = .atEnd := by
  rfl

theorem nextWord_stuck {expects : Terminal → Bool} {t : Text} (h : t ≠ [])
    (hscan : scan? expects t = none) : nextWord expects t = .stuck := by
  simp [nextWord, Cursor.next, Cursor.nextWithin, h, hscan, Next.word]

theorem nextWord_token {expects : Terminal → Bool} {t : Text} {l : Lexeme} (h : t ≠ [])
    (hscan : scan? expects t = some l) (hl : l.terminal ∉ Terminal.ignored) :
    nextWord expects t = .token l (t.drop l.text.length) := by
  simp [nextWord, Cursor.next, Cursor.nextWithin, h, hscan, hl, Next.word, Cursor.skip]

theorem nextWord_ignored {expects : Terminal → Bool} {t : Text} {l : Lexeme} (h : t ≠ [])
    (hscan : scan? expects t = some l) (hl : l.terminal ∈ Terminal.ignored) :
    nextWord expects t = nextWord expects (t.drop l.text.length) := by
  have hpos := List.length_pos_iff.mpr h
  have hlength := List.length_pos_iff.mpr (scan?_ne_nil hscan)
  simp only [nextWord, Cursor.next]
  rw [Cursor.nextWithin]
  simp only [if_neg h, hscan, List.contains_iff_mem.mpr hl, if_true]
  refine Cursor.nextWithin_word expects rfl ?_ ?_
  · simp only [Cursor.skip, List.length_drop]
    omega
  · simp only [Cursor.skip, List.length_drop]
    omega

theorem Cursor.exists_scan {expects : Terminal → Bool} {n : Nat} {c : Cursor} {l : Lexeme}
    {r : Text} (h : (nextWithin expects n c).word = .token l r) :
    ∃ skipped t, c.rest = skipped ++ t ∧ t ≠ [] ∧ scan? expects t = some l ∧
      l.terminal ∉ Terminal.ignored ∧ r = t.drop l.text.length := by
  induction n generalizing c with
  | zero => exact absurd h (by simp [nextWithin, Next.word])
  | succ n ih =>
    rw [nextWithin] at h
    split at h
    · exact absurd h (by simp [Next.word])
    · next hempty =>
      split at h
      · exact absurd h (by simp [Next.word])
      · next l' hscan =>
        simp only at h
        split at h
        · obtain ⟨skipped, t, hrest, ht⟩ := ih h
          refine ⟨c.rest.take l'.text.length ++ skipped, t, ?_, ht⟩
          rw [List.append_assoc, ← hrest]
          exact (List.take_append_drop _ _).symm
        · next hkept =>
          obtain ⟨hl, rfl⟩ := Word.token.inj h
          subst hl
          exact ⟨[], c.rest, rfl, hempty, hscan, fun h => hkept (List.contains_iff_mem.mpr h), rfl⟩

/-- A token is scanned after what stands between words, and the text goes on after it. -/
theorem exists_scan_of_nextWord {expects : Terminal → Bool} {t r : Text} {l : Lexeme}
    (h : nextWord expects t = .token l r) :
    ∃ skipped t', t = skipped ++ t' ∧ t' ≠ [] ∧ scan? expects t' = some l ∧
      l.terminal ∉ Terminal.ignored ∧ r = t'.drop l.text.length :=
  Cursor.exists_scan h

theorem nextWord_shorter {expects : Terminal → Bool} {t r : Text} {l : Lexeme}
    (h : nextWord expects t = .token l r) : r.length < t.length := by
  obtain ⟨skipped, t', rfl, hne, hscan, -, rfl⟩ := exists_scan_of_nextWord h
  have hpos := List.length_pos_iff.mpr hne
  have hl := List.length_pos_iff.mpr (scan?_ne_nil hscan)
  rw [List.length_drop, List.length_append]
  omega

/-! ### Runs -/

/-- The derivation of a query, if what one terminal does is to end it. -/
def Fed.accepted? : Fed → Option QueryDerivation
  | accepted d => some d
  | _ => none

theorem Fed.accepted?_eq_some_iff {fed : Fed} {d : QueryDerivation} :
    fed.accepted? = some d ↔ fed = .accepted d := by
  cases fed <;> simp [accepted?]

/-- One step of a run, as far as it matters for the derivation. -/
theorem deriveFrom_succ (source : Text) (n : Nat) (stack : Stack) (previous : Option Token)
    (c : Cursor) :
    (deriveFrom source (n + 1) stack previous c).toOption =
      match c.next stack.row.expects with
      | .stuck _ => none
      | .atEnd => (stack.feed Stack.endToken).accepted?
      | .token t after =>
        match stack.feed t.lexeme with
        | .shifted stack => (deriveFrom source n stack (some t) after).toOption
        | .accepted d => some d
        | .refused _ => none := by
  rw [deriveFrom]
  cases c.next stack.row.expects with
  | stuck place => rfl
  | atEnd =>
    cases hfeed : stack.feed Stack.endToken <;>
      simp only [Stack.endToken] at hfeed <;> simp only [hfeed] <;> rfl
  | token t after => cases hfeed : stack.feed t.lexeme <;> simp only [hfeed] <;> rfl

theorem deriveFrom_congr {source source' : Text} {m n : Nat} {stack : Stack}
    {previous previous' : Option Token} {c c' : Cursor} (h : c.rest = c'.rest)
    (hm : c.rest.length < m) (hn : c.rest.length < n) :
    (deriveFrom source m stack previous c).toOption =
      (deriveFrom source' n stack previous' c').toOption := by
  induction m generalizing n stack previous previous' c c' with
  | zero => omega
  | succ m ih =>
    cases n with
    | zero => omega
    | succ n =>
      have hword : (c.next stack.row.expects).word = (c'.next stack.row.expects).word := by
        rw [Cursor.next_word, Cursor.next_word, h]
      rw [deriveFrom_succ, deriveFrom_succ]
      cases hnext : c.next stack.row.expects with
      | stuck place =>
        cases hnext' : c'.next stack.row.expects with
        | stuck place' => rfl
        | atEnd => simp [hnext, hnext', Next.word] at hword
        | token t' after' => simp [hnext, hnext', Next.word] at hword
      | atEnd =>
        cases hnext' : c'.next stack.row.expects with
        | stuck place' => simp [hnext, hnext', Next.word] at hword
        | atEnd => rfl
        | token t' after' => simp [hnext, hnext', Next.word] at hword
      | token t after =>
        cases hnext' : c'.next stack.row.expects with
        | stuck place' => simp [hnext, hnext', Next.word] at hword
        | atEnd => simp [hnext, hnext', Next.word] at hword
        | token t' after' =>
          have hshorter : after.rest.length < c.rest.length := by
            refine @nextWord_shorter stack.row.expects c.rest after.rest t.lexeme ?_
            rw [← Cursor.next_word, hnext]
            rfl
          simp only [hnext, hnext', Next.word] at hword
          obtain ⟨hlexeme, hrest⟩ := Word.token.inj hword
          simp only [← hlexeme]
          cases stack.feed t.lexeme with
          | shifted stack => exact ih hrest (by omega) (by omega)
          | accepted d => rfl
          | refused stack => rfl

namespace Stack

/-- The derivation that a run from a stack over a text ends with, if it ends well. -/
def run (stack : Stack) (t : Text) : Option QueryDerivation :=
  (deriveFrom [] (t.length + 1) stack none ⟨.start, t⟩).toOption

/-- One step of a run: the next word is fed to the stack, and the run goes on with the text after
it. -/
theorem run_eq (stack : Stack) (t : Text) :
    stack.run t =
      match nextWord stack.row.expects t with
      | .stuck => none
      | .atEnd => (stack.feed endToken).accepted?
      | .token l r =>
        match stack.feed l with
        | .shifted after => after.run r
        | .accepted d => some d
        | .refused _ => none := by
  rw [run, deriveFrom_succ, nextWord]
  cases hnext : Cursor.next stack.row.expects ⟨.start, t⟩ with
  | stuck place => rfl
  | atEnd => rfl
  | token l after =>
    have hshorter : after.rest.length < t.length := by
      refine @nextWord_shorter stack.row.expects t after.rest l.lexeme ?_
      rw [nextWord, hnext]
      rfl
    simp only [Next.word]
    cases stack.feed l.lexeme with
    | shifted stack => exact deriveFrom_congr rfl hshorter (Nat.lt_succ_self _)
    | accepted d => rfl
    | refused stack => rfl

end Stack

/-- A query text is read by a run from the empty stack. -/
theorem Query.parse_eq_run (t : Text) (h : t.isBlank = false) :
    (Query.parse t).toOption = (Stack.run [] t).map Derivation.eval := by
  have hrun : (derive t).toOption = Stack.run [] t :=
    deriveFrom_congr rfl (Nat.lt_succ_self _) (Nat.lt_succ_self _)
  rw [parse, h, ← hrun]
  cases derive t <;> rfl

theorem Query.parse_eq_ok_iff_toOption {t : Text} {q : Query} :
    Query.parse t = .ok q ↔ (Query.parse t).toOption = some q := by
  cases Query.parse t <;> simp [Except.toOption]

/-- A query is read if it is the meaning of what a run ends with. -/
theorem Query.parse_eq_ok_iff {t : Text} {q : Query} (h : t.isBlank = false) :
    Query.parse t = .ok q ↔ ∃ d, Stack.run [] t = some d ∧ d.eval = q := by
  rw [parse_eq_ok_iff_toOption, parse_eq_run t h]
  exact Option.map_eq_some_iff

end JqFlow
