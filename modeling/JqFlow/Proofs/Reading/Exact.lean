import JqFlow.Query.Equality
import JqFlow.Proofs.Reading.Language
import JqFlow.Proofs.Reading.Refusals

/-!
# What is read is what the grammar derives

Which tokens a text is cut into depends on what the automaton expects. Once it is cut, it is read
exactly if the tokens are derived from the start of the grammar, as the meaning of the derivation in
which every `catch` belongs to the nearest `try`.

## Main definitions

- `Stack.Splits`: a text is cut into tokens while a stack reads them

## Main statements

- `expects_eq_false_of_nextWord`: a run gets stuck only at words that are not expected
- `Stack.Splits.run_eq`: a run over a text that is cut into tokens
- `Query.parse_exact`: which texts are read, and as which queries
- `Query.exists_splits_of_parse`: a text that is read can be cut

## Design notes

Where no word that is expected comes next, but another one does, the text is cut there too: that
nothing is lost by looking for expected words only is part of what is proved. After a token that is
not expected, or is refused, there is no stack that could expect anything, so nothing is said of the
tokens that come after it.
-/

namespace JqFlow

/-! ### Words that are not expected -/

/-- Where nothing that is expected matches, no token that is scanned is expected. -/
theorem expects_eq_false_of_scan? {expects expects' : Terminal → Bool} {t : Text} {l : Lexeme}
    (h : scan? expects t = none) (h' : scan? expects' t = some l) :
    expects l.terminal = false := by
  have hnone {x : Terminal} (hx : x ∈ Terminal.inMatchOrder) (hexpects : expects x = true) :
      x.match? t = none := by
    have htried := List.findSome?_eq_none_iff.mp h x hx
    rw [if_pos (by simp [hexpects])] at htried
    exact Option.map_eq_none_iff.mp htried
  obtain ⟨x, hx, -, hmatch, hterminal⟩ := exists_match_of_scan? h'
  cases hexpects : expects l.terminal with
  | false => rfl
  | true =>
    rcases hterminal with rfl | ⟨rfl, hkeyword, hliteral⟩
    · rw [hnone hx hexpects] at hmatch
      exact absurd hmatch (by simp)
    · -- A keyword is spelled as the name that was scanned.
      have hmem : l.terminal ∈ Terminal.inMatchOrder := List.mem_append_right _ hkeyword
      have hkeyword := hnone hmem hexpects
      rw [Terminal.match?_literal hliteral, if_pos (Terminal.match?_isPrefix hmatch)] at hkeyword
      exact absurd hkeyword (by simp)

/-- Where a run gets stuck, the next word of the text is not expected. -/
theorem expects_eq_false_of_nextWord {expects expects' : Terminal → Bool} {t r : Text} {l : Lexeme}
    (h : nextWord expects t = .stuck) (h' : nextWord expects' t = .token l r) :
    expects l.terminal = false := by
  -- What stands between words is skipped by both alike.
  induction hn : t.length using Nat.strong_induction_on generalizing t with
  | _ n ih =>
    by_cases hempty : t = []
    · rw [hempty, nextWord_nil] at h
      exact absurd h (by simp)
    cases hscan : scan? expects t with
    | none =>
      cases hscan' : scan? expects' t with
      | none =>
        rw [nextWord_stuck hempty hscan'] at h'
        exact absurd h' (by simp)
      | some l' =>
        by_cases hl' : l'.terminal ∈ Terminal.ignored
        · rw [scan?_ignored hscan' hl'] at hscan
          exact absurd hscan (by simp)
        · rw [nextWord_token hempty hscan' hl'] at h'
          obtain ⟨rfl, -⟩ := Word.token.inj h'
          exact expects_eq_false_of_scan? hscan hscan'
    | some l' =>
      by_cases hl' : l'.terminal ∈ Terminal.ignored
      · rw [nextWord_ignored hempty hscan hl'] at h
        rw [nextWord_ignored hempty (scan?_ignored hscan hl') hl'] at h'
        have hpos := List.length_pos_iff.mpr hempty
        have hl := List.length_pos_iff.mpr (scan?_ne_nil hscan)
        refine ih (t.drop l'.text.length).length ?_ h h' rfl
        rw [List.length_drop]
        omega
      · rw [nextWord_token hempty hscan hl'] at h
        exact absurd h (by simp)

/-! ### Cutting a text into tokens -/

/-- A text is cut into tokens while a stack reads them: each is the next word of those that the row
of the stack expects. Where none of them comes next, any other word is taken. -/
inductive Stack.Splits : Stack → Text → List Lexeme → Prop
  | atEnd {stack : Stack} {t : Text} (h : nextWord stack.row.expects t = .atEnd) : Splits stack t []
  | token {stack after : Stack} {t r : Text} {l : Lexeme} {w : List Lexeme}
    (h : nextWord stack.row.expects t = .token l r) (hfeed : stack.feed l = .shifted after)
    (hrest : Splits after r w) : Splits stack t (l :: w)
  | refused {stack after : Stack} {t r : Text} {l : Lexeme} (w : List Lexeme)
    (h : nextWord stack.row.expects t = .token l r) (hfeed : stack.feed l = .refused after) :
    Splits stack t (l :: w)
  | misplaced {stack : Stack} {t r : Text} {l : Lexeme} (w : List Lexeme)
    (h : nextWord stack.row.expects t = .stuck)
    (hword : nextWord (fun _ => true) t = .token l r) : Splits stack t (l :: w)

/-- The end of a text is not a token of it. -/
theorem scan?_ne_endOfInput {expects : Terminal → Bool} {t : Text} {l : Lexeme}
    (h : scan? expects t = some l) : l.terminal ≠ .endOfInput := by
  obtain ⟨x, hx, -, -, hterminal⟩ := exists_match_of_scan? h
  intro hend
  rcases hterminal with rfl | ⟨-, hkeyword, -⟩
  · exact absurd (hend ▸ hx) (by decide)
  · exact absurd (hend ▸ hkeyword) (by decide)

namespace Stack

variable {stack : Stack} {t : Text} {w : List Lexeme} {d : QueryDerivation}

/-- A run over a text that is cut into tokens makes what the automaton makes of the tokens. -/
theorem Splits.run_eq (h : Splits stack t w) : stack.run t = accept? w stack := by
  induction h with
  | atEnd hnext => rw [Stack.run_eq, hnext, accept?_nil]
  | token hnext hfeed _ ih =>
    rw [Stack.run_eq, hnext, accept?_cons_shifted hfeed, ← ih]
    simp only [hfeed]
  | refused w hnext hfeed =>
    rw [Stack.run_eq, hnext, accept?_cons_eq_none fun after h => by simp [hfeed] at h]
    simp only [hfeed]
  | misplaced w hnext hword =>
    rw [Stack.run_eq, hnext, accept?_cons_eq_none]
    intro after hfeed
    have hexpects := expects_of_shifted hfeed
    rw [expects_eq_false_of_nextWord hnext hword] at hexpects
    exact absurd hexpects (by simp)

/-- A text over which a run ends well can be cut. -/
theorem exists_splits_of_run (h : stack.run t = some d) : ∃ w, Splits stack t w := by
  -- A token is never empty, so the text after it is shorter.
  induction hn : t.length using Nat.strong_induction_on generalizing stack t with
  | _ n ih =>
    rw [Stack.run_eq] at h
    cases hnext : nextWord stack.row.expects t with
    | stuck => simp [hnext] at h
    | atEnd => exact ⟨[], .atEnd hnext⟩
    | token l r =>
      simp only [hnext] at h
      cases hfeed : stack.feed l with
      | refused s => simp [hfeed] at h
      | accepted d' =>
        obtain ⟨-, t', -, -, hscan, -⟩ := exists_scan_of_nextWord hnext
        exact absurd (feed_accepted hfeed) (scan?_ne_endOfInput hscan)
      | shifted after =>
        simp only [hfeed] at h
        obtain ⟨w, hw⟩ := ih r.length (hn ▸ nextWord_shorter hnext) h rfl
        exact ⟨l :: w, .token hnext hfeed hw⟩

end Stack

theorem Derivation.yield_ne_nil {s : Symbol} (d : Derivation s) : d.yield ≠ [] := by
  obtain ⟨l, w, hyield, -⟩ := d.first_yield
  exact hyield ▸ List.cons_ne_nil l w

/-- A text that is cut into tokens which are derived is not blank. -/
theorem Stack.Splits.isBlank_eq_false {stack : Stack} {t : Text} {w : List Lexeme}
    (h : Splits stack t w) (hw : w ≠ []) : t.isBlank = false := by
  cases h with
  | atEnd => exact absurd rfl hw
  | token hnext => exact isBlank_of_nextWord hnext
  | refused _ hnext => exact isBlank_of_nextWord hnext
  | misplaced _ _ hword => exact isBlank_of_nextWord hword

/-! ### Reading exactly what is derived -/

namespace Query

variable {t : Text} {w : List Lexeme} {q : Query}

/-- A text that is cut into tokens is read as the meaning of their derivation. -/
theorem parse_eq_ok_iff_of_splits (h : Stack.Splits [] t w) :
    parse t = .ok q ↔ ∃ d : QueryDerivation, (d.yield = w ∧ d.Nearest) ∧ d.eval = q := by
  cases hblank : t.isBlank with
  | false =>
    simp only [← Stack.accept?_eq_some_iff, ← h.run_eq]
    exact parse_eq_ok_iff hblank
  | true =>
    -- A blank text has no tokens, and nothing is derived without tokens.
    obtain rfl : w = [] := by
      by_contra hw
      exact absurd (hblank.symm.trans (h.isBlank_eq_false hw)) (by simp)
    constructor
    · intro hparse
      simp [parse, hblank] at hparse
    · rintro ⟨d, ⟨hyield, -⟩, -⟩
      exact absurd hyield d.yield_ne_nil

/-- A text that is read can be cut into tokens. -/
theorem exists_splits_of_parse (h : parse t = .ok q) : ∃ w, Stack.Splits [] t w := by
  cases hblank : t.isBlank with
  | true => simp [parse, hblank] at h
  | false =>
    obtain ⟨d, hrun, -⟩ := (parse_eq_ok_iff hblank).mp h
    exact Stack.exists_splits_of_run hrun

/-- The texts that are read are those that can be cut into tokens which are derived. -/
theorem parse_eq_ok_iff_exists_splits : parse t = .ok q ↔
    ∃ w, Stack.Splits [] t w ∧ ∃ d : QueryDerivation, (d.yield = w ∧ d.Nearest) ∧ d.eval = q := by
  constructor
  · intro h
    obtain ⟨w, hw⟩ := exists_splits_of_parse h
    exact ⟨w, hw, (parse_eq_ok_iff_of_splits hw).mp h⟩
  · rintro ⟨w, hw, hd⟩
    exact (parse_eq_ok_iff_of_splits hw).mpr hd

/-- A text that is cut into tokens is read exactly if they are derived from the start of the
grammar. It is read as the meaning of the derivation in which every `catch` belongs to the nearest
`try`, of which there is one. -/
theorem parse_exact (h : Stack.Splits [] t w) :
    ((∃ q, parse t = .ok q) ↔ ∃ d : QueryDerivation, d.yield = w) ∧
      (∀ q, parse t = .ok q ↔ ∃ d : QueryDerivation, (d.yield = w ∧ d.Nearest) ∧ d.eval = q) ∧
      ((∃ d : QueryDerivation, d.yield = w) →
        ∃! d : QueryDerivation, d.yield = w ∧ d.Nearest) := by
  refine ⟨⟨?_, ?_⟩, fun q => parse_eq_ok_iff_of_splits h, ?_⟩
  · rintro ⟨q, hq⟩
    obtain ⟨d, ⟨hyield, -⟩, -⟩ := (parse_eq_ok_iff_of_splits h).mp hq
    exact ⟨d, hyield⟩
  · rintro ⟨d, rfl⟩
    obtain ⟨d', hd', -⟩ := QueryDerivation.existsUnique_nearest d
    exact ⟨d'.eval, (parse_eq_ok_iff_of_splits h).mpr ⟨d', hd', rfl⟩⟩
  · rintro ⟨d, rfl⟩
    exact QueryDerivation.existsUnique_nearest d

/-- A `catch` after two `try` is the second one's, in the one derivation that is made. -/
theorem parse_exact_catch :
    Stack.Splits [] "try try . catch ." [⟨.kwTry, "try"⟩, ⟨.kwTry, "try"⟩, ⟨.dot, "."⟩,
      ⟨.kwCatch, "catch"⟩, ⟨.dot, "."⟩] ∧
    ∃ d : QueryDerivation, d.eval = attempt (attempt identity (some identity)) none ∧
      ∀ d' : QueryDerivation, d'.yield = [⟨.kwTry, "try"⟩, ⟨.kwTry, "try"⟩, ⟨.dot, "."⟩,
        ⟨.kwCatch, "catch"⟩, ⟨.dot, "."⟩] ∧ d'.Nearest ↔ d' = d := by
  have hsplits : Stack.Splits [] "try try . catch ." [⟨.kwTry, "try"⟩, ⟨.kwTry, "try"⟩, ⟨.dot, "."⟩,
      ⟨.kwCatch, "catch"⟩, ⟨.dot, "."⟩] := by
    let word (l : Lexeme) (next : Automaton.State) : Frame := ⟨.t l.terminal, .leaf _ l.text, next⟩
    let tries : Stack := [word ⟨.kwTry, "try"⟩ 21, word ⟨.kwTry, "try"⟩ 21]
    let body : Derivation (.n .primary) := .node .identity (.cons (.leaf .dot ".") .nil)
    have hgoto : tries.row.gotos.lookup .primary = some 49 := by decide +kernel
    have hbody : Stack.Finishes .kwCatch .identity (word ⟨.dot, "."⟩ 9 :: tries)
        (⟨.n .primary, body, 49⟩ :: tries) :=
      ⟨by decide +kernel, by decide +kernel, Stack.finish?_eq_some.mpr ⟨_, 49, rfl, hgoto, rfl⟩⟩
    have htry : Stack.feed ⟨.kwTry, "try"⟩ [] = .shifted [word ⟨.kwTry, "try"⟩ 21] :=
      Stack.feed_shift (by decide +kernel)
    have htry' : Stack.feed ⟨.kwTry, "try"⟩ [word ⟨.kwTry, "try"⟩ 21] = .shifted tries :=
      Stack.feed_shift (by decide +kernel)
    have hdot : Stack.feed ⟨.dot, "."⟩ tries = .shifted (word ⟨.dot, "."⟩ 9 :: tries) :=
      Stack.feed_shift (by decide +kernel)
    have hcatch : Stack.feed ⟨.kwCatch, "catch"⟩ (word ⟨.dot, "."⟩ 9 :: tries) =
        .shifted (word ⟨.kwCatch, "catch"⟩ 99 :: ⟨.n .primary, body, 49⟩ :: tries) :=
      (Stack.feed_finish hbody (Stack.whole?_eq_none (by decide) body 49 tries)).trans
        (Stack.feed_shift (by decide +kernel))
    have hdot' : Stack.feed ⟨.dot, "."⟩
        (word ⟨.kwCatch, "catch"⟩ 99 :: ⟨.n .primary, body, 49⟩ :: tries) = .shifted
          (word ⟨.dot, "."⟩ 9 :: word ⟨.kwCatch, "catch"⟩ 99 :: ⟨.n .primary, body, 49⟩ :: tries) :=
      Stack.feed_shift (by decide +kernel)
    exact .token (r := " try . catch .") (by decide +kernel) htry <|
      .token (r := " . catch .") (by decide +kernel) htry' <|
      .token (r := " catch .") (by decide +kernel) hdot <|
      .token (r := " .") (by decide +kernel) hcatch <|
      .token (r := []) (by decide +kernel) hdot' (.atEnd (nextWord_nil _))
  obtain ⟨-, hparse, hunique⟩ := parse_exact hsplits
  have hread : parse "try try . catch ." = .ok (attempt (attempt identity (some identity)) none) :=
    parse_eq_ok_iff_toOption.mpr (by decide +kernel)
  obtain ⟨d, hd, heval⟩ := (hparse _).mp hread
  refine ⟨hsplits, d, heval, fun d' => ⟨fun hd' => (hunique ⟨d, hd.1⟩).unique hd' hd, ?_⟩⟩
  rintro rfl
  exact hd

end Query
end JqFlow
