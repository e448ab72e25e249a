import JqFlow.Proofs.Reading.Run

/-!
# Words and layouts

A layout of a sequence of tokens is a text in which they stand one after another, with white space
anywhere between them. What may come directly after a token depends on the token.

## Main definitions

- `Lexeme.Stands`: is a token the first word of its text and the text after it?
- `Layout`: a text that begins with a layout of a sequence of tokens

## Main statements

- `Stack.run_layout`: a run over a layout reads the tokens
-/

namespace JqFlow

/-- A token is the word at the beginning of a text if it is expected and taken for what it is. Here
the text is that of the token with another after it. -/
structure Lexeme.Stands (l : Lexeme) (t : Text) : Prop where
  ne_nil : l.text ≠ []
  kept : l.terminal ∉ Terminal.ignored
  scanned : ∀ expects : Terminal → Bool, expects l.terminal = true →
    (l.terminal = .ident → promote expects l.text = .ident) →
    scan? expects (l.text ++ t) = some l

/-- The text `t` is a layout of the tokens `w` with the text `r` after it. -/
inductive Layout : Text → List Lexeme → Text → Prop
  | nil (r : Text) : Layout r [] r
  | blank {c : CodePoint} (hc : Spelling.isBlank c = true) {t r : Text} {w : List Lexeme}
    (h : Layout t w r) : Layout (c :: t) w r
  | word {l : Lexeme} {t r : Text} {w : List Lexeme} (hl : l.Stands t) (h : Layout t w r) :
    Layout (l.text ++ t) (l :: w) r

theorem Layout.append {t t' r : Text} {w w' : List Lexeme} (h : Layout t w t')
    (h' : Layout t' w' r) : Layout t (w ++ w') r := by
  induction h with
  | nil => exact h'
  | blank hc _ ih => exact .blank hc (ih h')
  | word hl _ ih => exact .word hl (ih h')

/-! ### How matches begin -/

namespace Terminal

/-- May a match of a terminal begin with a code point? -/
def begins (x : Terminal) (c : CodePoint) : Bool :=
  match x with
  | field => c = '.'
  | varName => c = '$'
  | format => c = '@'
  | ident => Spelling.isNameStart c
  | number => c.isDecimalDigit
  | string => c = '"'
  | blank => Spelling.isBlank c
  | comment => c = '#'
  | x => x.literal?.bind List.head? = some c

theorem match?_eq_none_of_begins {x : Terminal} {c : CodePoint} (h : x.begins c = false)
    (t : Text) : x.match? (c :: t) = none := by
  unfold match?
  split
  · simp_all [begins, Spelling.signed?]
  · simp_all [begins, Spelling.signed?]
  · unfold Spelling.format?
    split
    · simp_all [begins]
    · rfl
  · simp_all [begins, Spelling.name?, Spelling.plainName?]
  · simp_all [begins, Spelling.number?, Spelling.digits]
  · unfold Spelling.string?
    split
    · simp_all [begins]
    · rfl
  · simp_all [begins, Spelling.blanks?]
  · unfold Spelling.comment?
    split
    · simp_all [begins]
    · rfl
  · cases hliteral : x.literal? with
    | none => rfl
    | some u =>
      cases u with
      | nil => exact absurd rfl (literal?_ne_nil hliteral)
      | cons d u =>
        have hd : d ≠ c := by
          rintro rfl
          simp_all [begins]
        simp [hd]

theorem begins_of_match? {x : Terminal} {c : CodePoint} {t text : Text}
    (h : x.match? (c :: t) = some text) : x.begins c = true := by
  cases hbegins : x.begins c with
  | true => rfl
  | false =>
    rw [match?_eq_none_of_begins hbegins] at h
    exact absurd h (by simp)

/-- The terminals that are tried before a given one on a text that begins with the given code
point. -/
def rivals (x : Terminal) (c : CodePoint) : List Terminal :=
  (inMatchOrder.takeWhile fun y => y != x).filter fun y => y.begins c

end Terminal

/-- The first terminal of those tried that is expected and matches gives the word. -/
theorem scan?_eq_some {expects : Terminal → Bool} {x : Terminal} {c : CodePoint} {t text : Text}
    (horder : x ∈ Terminal.inMatchOrder) (hx : expects x = true ∨ x ∈ Terminal.ignored)
    (hmatch : x.match? (c :: t) = some text)
    (hrivals : ∀ y ∈ x.rivals c, expects y = true ∨ y ∈ Terminal.ignored →
      y.match? (c :: t) = none) :
    scan? expects (c :: t) = some ⟨if x = .ident then promote expects text else x, text⟩ := by
  obtain ⟨before, after, hsplit, hbefore⟩ := List.eq_append_cons_of_mem horder
  have htake : Terminal.inMatchOrder.takeWhile (fun y => y != x) = before := by
    rw [hsplit, List.takeWhile_append_of_pos]
    · simp
    · intro y hy
      simpa using fun h : y = x => hbefore (h ▸ hy)
  rw [scan?, hsplit, List.findSome?_append, List.findSome?_eq_none_iff.mpr]
  · have htried : (expects x || Terminal.ignored.contains x) = true := by
      simpa using hx
    rw [Option.none_or, List.findSome?_cons, if_pos htried, hmatch]
    rfl
  · intro y hy
    split
    · next htried =>
      have hnone : y.match? (c :: t) = none := by
        by_cases hbegins : y.begins c = true
        · exact hrivals y (List.mem_filter.mpr ⟨htake ▸ hy, hbegins⟩) (by simpa using htried)
        · exact Terminal.match?_eq_none_of_begins (by simpa using hbegins) t
      rw [hnone]
      rfl
    · rfl

/-! ### White space -/

/-- No number is in one of the first ranges and in one of the others. -/
theorem inRanges_apart {rs rs' : List (Nat × Nat)}
    (h : rs.all (fun r => rs'.all fun r' => r.2 < r'.1 || r'.2 < r.1) = true) {n : Nat}
    (hn : inRanges rs n = true) : inRanges rs' n = false := by
  simp only [inRanges, List.any_eq_true, List.any_eq_false, List.all_eq_true, Bool.and_eq_true,
    Bool.or_eq_true, decide_eq_true_eq] at h hn ⊢
  obtain ⟨r, hr, hfirst, hlast⟩ := hn
  intro r' hr' hn'
  have := h r hr r' hr'
  omega

/-- The letters lie in two ranges of code points. -/
theorem CodePoint.isAsciiLetter_scalar {c : Char} : (CodePoint.scalar c).isAsciiLetter = true ↔
    (65 ≤ c.toNat ∧ c.toNat ≤ 90) ∨ (97 ≤ c.toNat ∧ c.toNat ≤ 122) := by
  change (decide (65 ≤ c.toNat ∧ c.toNat ≤ 90) ||
    (decide (97 ≤ c.toNat) && decide (c.toNat ≤ 122))) = true ↔ _
  rw [Bool.or_eq_true, Bool.and_eq_true, decide_eq_true_eq, decide_eq_true_eq, decide_eq_true_eq]

/-- The digits lie in one range of code points. -/
theorem CodePoint.isAsciiDigit_scalar {c : Char} : (CodePoint.scalar c).isAsciiDigit = true ↔
    48 ≤ c.toNat ∧ c.toNat ≤ 57 := by
  change (decide (48 ≤ c.toNat) && decide (c.toNat ≤ 57)) = true ↔ _
  rw [Bool.and_eq_true, decide_eq_true_eq, decide_eq_true_eq]

/-- A word does not begin with white space. -/
theorem Terminal.isBlank_of_begins {x : Terminal} {c : CodePoint} (h : x.begins c = true)
    (hx : x ∉ Terminal.ignored) : c.isBlank = false := by
  have hranges : inRanges [(0x21, 0x7e)] c.toNat = true ∨
      inRanges decimalDigitRanges c.toNat = true := by
    cases c with
    | surrogate i =>
      cases x <;>
        simp [begins, literal?, Spelling.isNameStart, Spelling.isBlank, CodePoint.isAsciiLetter,
          CodePoint.isDecimalDigit, CodePoint.isAsciiDigit, CodePoint.toNat, Text.ofString] at h
      exact .inr h.2
    | scalar c =>
      cases x with
      | ident =>
        simp only [begins, Spelling.isNameStart, Bool.or_eq_true, CodePoint.isAsciiLetter_scalar,
          decide_eq_true_eq] at h
        have hnat : 65 ≤ c.toNat ∧ c.toNat ≤ 122 := by
          rcases h with hletter | h
          · omega
          · rw [CodePoint.scalar.inj h]
            decide
        refine .inl ?_
        change (decide (0x21 ≤ c.toNat) && decide (c.toNat ≤ 0x7e) || false) = true
        simp only [Bool.or_false, Bool.and_eq_true, decide_eq_true_eq]
        omega
      | number =>
        simp only [begins, CodePoint.isDecimalDigit, Bool.or_eq_true, Bool.and_eq_true,
          CodePoint.isAsciiDigit_scalar] at h
        refine h.imp ?_ And.right
        intro hnat
        change (decide (0x21 ≤ c.toNat) && decide (c.toNat ≤ 0x7e) || false) = true
        simp only [Bool.or_false, Bool.and_eq_true, decide_eq_true_eq]
        omega
      | blank => exact absurd (by decide) hx
      | comment => exact absurd (by decide) hx
      | endOfInput => exact absurd h (by simp [begins, literal?])
      | _ =>
        simp [begins, literal?, Text.ofString] at h
        subst h
        exact .inl (by decide)
  rcases hranges with h | h
  · exact inRanges_apart (by decide) h
  · exact inRanges_apart (by decide) h

/-- What is scanned as a word does not begin with white space. -/
theorem isBlank_of_scan? {expects : Terminal → Bool} {c : CodePoint} {t : Text} {l : Lexeme}
    (h : scan? expects (c :: t) = some l) (hl : l.terminal ∉ Terminal.ignored) :
    c.isBlank = false := by
  obtain ⟨x, -, -, hmatch, hterminal⟩ := exists_match_of_scan? h
  have hkept : x ∉ Terminal.ignored := by
    rcases hterminal with rfl | ⟨rfl, -⟩
    · exact hl
    · decide
  exact Terminal.isBlank_of_begins (Terminal.begins_of_match? hmatch) hkept

/-- A word that stands somewhere does not begin with white space. -/
theorem Lexeme.Stands.head {l : Lexeme} {t : Text} (h : l.Stands t) :
    ∃ c u, l.text = c :: u ∧ c.isBlank = false := by
  obtain ⟨c, u, hu⟩ := List.exists_cons_of_ne_nil h.ne_nil
  refine ⟨c, u, hu, ?_⟩
  have hpromote (hl : l.terminal = .ident) : promote (fun y => y = l.terminal) l.text = .ident := by
    unfold promote
    split
    · split
      · next k hk hexpects =>
        rw [of_decide_eq_true hexpects, hl]
      · rfl
    · rfl
  have hscan := h.scanned (fun y => y = l.terminal) (by simp) hpromote
  rw [hu, List.cons_append] at hscan
  exact isBlank_of_scan? hscan h.kept

/-- A text in which a token comes next is not blank. -/
theorem isBlank_of_nextWord {expects : Terminal → Bool} {t r : Text} {l : Lexeme}
    (h : nextWord expects t = .token l r) : t.isBlank = false := by
  obtain ⟨skipped, t', rfl, hne, hscan, hkept, -⟩ := exists_scan_of_nextWord h
  obtain ⟨c, u, rfl⟩ := List.exists_cons_of_ne_nil hne
  simp [Text.isBlank, isBlank_of_scan? hscan hkept]

/-- A text in which a word stands is not blank. -/
theorem Layout.isBlank_eq_false {t r : Text} {w : List Lexeme} (h : Layout t w r) (hw : w ≠ []) :
    t.isBlank = false := by
  induction h with
  | nil => exact absurd rfl hw
  | blank _ _ ih =>
    have := ih hw
    simp_all [Text.isBlank]
  | word hl _ _ =>
    obtain ⟨c, u, hu, hc⟩ := hl.head
    simp [hu, Text.isBlank, hc]

/-- The code points that are white space between words. -/
theorem Spelling.isBlank_cases {c : CodePoint} (h : isBlank c = true) :
    c = ' ' ∨ c = '\t' ∨ c = '\x0c' ∨ c = '\r' ∨ c = '\n' := by
  simpa [isBlank, or_assoc] using h

theorem scan?_blank (expects : Terminal → Bool) {c : CodePoint} (hc : Spelling.isBlank c = true)
    (t : Text) :
    scan? expects (c :: t) = some ⟨.blank, c :: t.takeWhile Spelling.isBlank⟩ := by
  have hrivals : Terminal.rivals .blank c = [] := by
    rcases Spelling.isBlank_cases hc with rfl | rfl | rfl | rfl | rfl <;> decide
  refine scan?_eq_some (x := .blank) (by decide) (.inr (by decide)) ?_ ?_
  · simp [Terminal.match?, Spelling.blanks?, hc]
  · rw [hrivals]
    exact fun _ h => absurd h List.not_mem_nil

/-- What stands between words begins as nothing does that is tried before it. -/
theorem Terminal.rivals_ignored {x : Terminal} (hx : x ∈ ignored) {c : CodePoint} {t text : Text}
    (h : x.match? (c :: t) = some text) : x.rivals c = [] := by
  have hbegins := begins_of_match? h
  have hcases : x = blank ∨ x = comment := by simpa [ignored] using hx
  rcases hcases with rfl | rfl
  · rcases Spelling.isBlank_cases hbegins with rfl | rfl | rfl | rfl | rfl <;> decide
  · obtain rfl : c = '#' := of_decide_eq_true hbegins
    decide

/-- What stands between words is scanned whatever is expected. -/
theorem scan?_ignored {expects expects' : Terminal → Bool} {t : Text} {l : Lexeme}
    (h : scan? expects t = some l) (hl : l.terminal ∈ Terminal.ignored) :
    scan? expects' t = some l := by
  obtain ⟨x, horder, -, hmatch, hterminal⟩ := exists_match_of_scan? h
  have hkeywords : ∀ k ∈ Terminal.keywords, k ∉ Terminal.ignored := by decide
  obtain rfl : l.terminal = x := hterminal.resolve_right fun hk => hkeywords _ hk.2.1 hl
  have hident : l.terminal ≠ .ident := by
    intro hident
    rw [hident] at hl
    exact absurd hl (by decide)
  cases t with
  | nil =>
    have hcases : l.terminal = .blank ∨ l.terminal = .comment := by
      simpa [Terminal.ignored] using hl
    rcases hcases with hx | hx <;> rw [hx] at hmatch
    · exact absurd hmatch (by simp [Terminal.match?, Spelling.blanks?])
    · exact absurd hmatch (by simp [Terminal.match?, Spelling.comment?])
  | cons c t =>
    have hscan := @scan?_eq_some expects' _ _ _ _ horder (.inr hl) hmatch fun y hy =>
      absurd (Terminal.rivals_ignored hl hmatch ▸ hy) List.not_mem_nil
    rw [hscan, if_neg hident]

theorem nextWord_blank (expects : Terminal → Bool) {c : CodePoint}
    (hc : Spelling.isBlank c = true) (t : Text) :
    nextWord expects (c :: t) = nextWord expects t := by
  rw [nextWord_ignored (by simp) (scan?_blank expects hc t) (by simp [Terminal.ignored])]
  simp only [List.length_cons, List.drop_succ_cons]
  cases t with
  | nil => rfl
  | cons d t =>
    by_cases hd : Spelling.isBlank d = true
    · rw [nextWord_ignored (by simp) (scan?_blank expects hd t) (by simp [Terminal.ignored])]
      simp [hd]
    · simp [hd]

namespace Stack

theorem expects_of_shifted {l : Lexeme} {stack after : Stack} (h : stack.feed l = .shifted after) :
    stack.row.expects l.terminal = true := by
  cases hshift : stack.row.shifts.lookup l.terminal with
  | some next => simp [Automaton.Row.expects, hshift]
  | none =>
    cases hfinish : stack.row.finish? l.terminal with
    | some p => simp [Automaton.Row.expects, hfinish]
    | none =>
      rw [feed_refuse hshift hfinish] at h
      exact absurd h (by simp)

/-- Where a token stands that is expected, it is fed to the stack. -/
theorem run_word {stack : Stack} {l : Lexeme} {t : Text} (hl : l.Stands t)
    (hexpects : stack.row.expects l.terminal = true) (hsees : stack.row.sees l = true) :
    stack.run (l.text ++ t) =
      match stack.feed l with
      | .shifted after => after.run t
      | .accepted d => some d
      | .refused _ => none := by
  have hscan := hl.scanned _ hexpects (by simpa [Automaton.Row.sees, Decidable.imp_iff_not_or] using hsees)
  have hne : l.text ++ t ≠ [] := by simp [hl.ne_nil]
  have hrun := run_eq stack (l.text ++ t)
  rw [nextWord_token hne hscan hl.kept, List.drop_left' rfl] at hrun
  exact hrun

theorem run_blank (stack : Stack) {c : CodePoint} (hc : Spelling.isBlank c = true) (t : Text) :
    stack.run (c :: t) = stack.run t := by
  rw [run_eq, nextWord_blank _ hc, ← run_eq]

/-- A run over a layout reads the tokens. -/
theorem run_layout {stack after : Stack} {t r : Text} {w : List Lexeme} (h : Layout t w r)
    (hread : stack.read w = some after) : stack.run t = after.run r := by
  induction h generalizing stack with
  | nil =>
    rw [Option.some.inj hread]
  | blank hc _ ih => rw [run_blank stack hc, ih hread]
  | @word l t r w hl _ ih =>
    rw [read] at hread
    split at hread
    · next hsees =>
      cases hfeed : stack.feed l with
      | shifted next =>
        rw [hfeed] at hread
        rw [run_word hl (expects_of_shifted hfeed) hsees, hfeed]
        exact ih hread
      | accepted d => simp [hfeed] at hread
      | refused s => simp [hfeed] at hread
    · exact absurd hread (by simp)

end Stack

end JqFlow
