import JqFlow.Proofs.Reading.Exact

/-!
# White space and comments between tokens

What stands between two tokens says nothing: blanks and complete comments can be put in there, and
the text is read as the same query. A token can be cut shorter by what comes after it, but never
grows, and before a blank or a comment it ends as it does at the end of the text.

## Main definitions

- `Gap`: blanks and complete comments
- `Gap.Filled`: a gap with more put in, though not inside a comment
- `Stack.Respaced`: a text that a stack reads, with gaps put in between the tokens

## Main statements

- `scan?_before_breaks`: a token is cut as before where words are broken off further on
- `Stack.Respaced.run_eq`: what a run makes of a text with gaps put in
- `Query.parse_respaced`: a text with gaps put in is read as the same query

## Design notes

Where a token ends is known only while the text is read, so gaps are put in along a run. A comment
is kept whole, as a token is: a line break inside it would make the rest of the comment part of the
query. Before a gap can begin several tokens may stand with nothing between them, so a token is
compared up to the first place where the two texts differ.
-/

namespace JqFlow

/-! ### Gaps -/

/-- What may stand between two tokens: blanks and complete comments. -/
inductive Gap : Text → Prop
  | nil : Gap []
  | blank {c : CodePoint} {g : Text} (hc : Spelling.isBlank c = true) (hg : Gap g) : Gap (c :: g)
  | comment {body g : Text} (hbody : .scalar '\n' ∉ body) (hg : Gap g) :
    Gap (.scalar '#' :: (body ++ .scalar '\n' :: g))

/-- A gap with gaps put in, before, after or between the blanks and comments of it. -/
inductive Gap.Filled : Text → Text → Prop
  | nil : Filled [] []
  | insert {x g g' : Text} (hx : Gap x) (h : Filled g g') : Filled g (x ++ g')
  | blank {c : CodePoint} {g g' : Text} (hc : Spelling.isBlank c = true) (h : Filled g g') :
    Filled (c :: g) (c :: g')
  | comment {body g g' : Text} (hbody : .scalar '\n' ∉ body) (h : Filled g g') :
    Filled (.scalar '#' :: (body ++ .scalar '\n' :: g)) (.scalar '#' :: (body ++ .scalar '\n' :: g'))

namespace Gap

variable {g g' x : Text}

theorem append (hg : Gap g) (hx : Gap x) : Gap (g ++ x) := by
  induction hg with
  | nil => exact hx
  | blank hc _ ih => exact .blank hc ih
  | @comment body g hbody _ ih =>
    rw [List.cons_append, List.append_assoc, List.cons_append]
    exact .comment hbody ih

theorem filled_self (hg : Gap g) : Filled g g := by
  induction hg with
  | nil => exact .nil
  | blank hc _ ih => exact .blank hc ih
  | comment hbody _ ih => exact .comment hbody ih

namespace Filled

theorem left (h : Filled g g') : Gap g := by
  induction h with
  | nil => exact .nil
  | insert _ _ ih => exact ih
  | blank hc _ ih => exact .blank hc ih
  | comment hbody _ ih => exact .comment hbody ih

theorem right (h : Filled g g') : Gap g' := by
  induction h with
  | nil => exact .nil
  | insert hx _ ih => exact hx.append ih
  | blank hc _ ih => exact .blank hc ih
  | comment hbody _ ih => exact .comment hbody ih

/-- Nothing is taken away. -/
theorem sublist (h : Filled g g') : g.Sublist g' := by
  induction h with
  | nil => exact .refl _
  | insert _ _ ih => exact ih.trans (List.sublist_append_right _ _)
  | blank _ _ ih => exact ih.cons_cons _
  | comment _ _ ih => exact ((ih.cons_cons _).append_left _).cons_cons _

end Filled

end Gap

/-- A text that begins with a blank or a comment. -/
def Text.BeginsGap : Text → Prop
  | [] => False
  | c :: _ => Spelling.isBlank c = true ∨ c = .scalar '#'

/-- A gap is empty or begins with a blank or a comment. -/
theorem Gap.eq_nil_or_begins {g : Text} (hg : Gap g) : g = [] ∨ ∀ t, Text.BeginsGap (g ++ t) := by
  cases hg with
  | nil => exact .inl rfl
  | blank hc _ => exact .inr fun _ => .inl hc
  | comment _ _ => exact .inr fun _ => .inr rfl

/-- What comes after a gap begins with it or as it does without. -/
theorem Gap.head_ne {g t : Text} (hg : Gap g) {c : CodePoint} (hblank : Spelling.isBlank c = false)
    (hhash : c ≠ .scalar '#') (ht : t.head? ≠ some c) : (g ++ t).head? ≠ some c := by
  cases hg with
  | nil => exact ht
  | blank hc _ =>
    rintro h
    obtain rfl := Option.some.inj h
    exact absurd hc (by simp [hblank])
  | comment _ _ => exact fun h => hhash (Option.some.inj h).symm

/-! ### Skipping gaps -/

theorem scan?_comment (expects : Terminal → Bool) (t : Text) :
    scan? expects (.scalar '#' :: t) =
      some ⟨.comment, .scalar '#' :: t.takeWhile fun c => c != .scalar '\n'⟩ := by
  have hrivals : Terminal.rivals .comment (.scalar '#') = [] := by decide
  refine scan?_eq_some (x := .comment) (by decide) (.inr (by decide)) rfl ?_
  rw [hrivals]
  exact fun _ h => absurd h List.not_mem_nil

/-- The code points of a comment are all but the end of the line. -/
theorem takeWhile_body {body : Text} (hbody : .scalar '\n' ∉ body) {t : Text}
    (ht : t.takeWhile (fun c => c != .scalar '\n') = []) :
    (body ++ t).takeWhile (fun c => c != .scalar '\n') = body := by
  rw [Text.takeWhile_append_of_nil ht, List.takeWhile_eq_self_iff]
  intro c hc
  simp only [bne_iff_ne, ne_eq]
  rintro rfl
  exact hbody hc

variable {expects : Terminal → Bool}

theorem nextWord_comment {body : Text} (hbody : .scalar '\n' ∉ body) (t : Text) :
    nextWord expects (.scalar '#' :: (body ++ .scalar '\n' :: t)) = nextWord expects t := by
  have hnewline : Spelling.isBlank (.scalar '\n') = true := by decide
  rw [nextWord_ignored (by simp) (scan?_comment _ _) (by simp [Terminal.ignored]),
    takeWhile_body hbody rfl, List.length_cons, List.drop_succ_cons, List.drop_left' rfl,
    nextWord_blank _ hnewline]

/-- A comment may also be ended by the end of the text. -/
theorem nextWord_lastComment {body : Text} (hbody : .scalar '\n' ∉ body) :
    nextWord expects (.scalar '#' :: body) = .atEnd := by
  have hself := takeWhile_body hbody (t := []) rfl
  rw [List.append_nil] at hself
  rw [nextWord_ignored (by simp) (scan?_comment _ _) (by simp [Terminal.ignored]), hself,
    List.drop_length]
  exact nextWord_nil expects

/-- A gap is skipped. -/
theorem nextWord_gap {g : Text} (hg : Gap g) (t : Text) :
    nextWord expects (g ++ t) = nextWord expects t := by
  induction hg with
  | nil => rfl
  | blank hc _ ih => rw [List.cons_append, nextWord_blank expects hc, ih]
  | comment hbody _ ih =>
    rw [List.cons_append, List.append_assoc, List.cons_append, nextWord_comment hbody, ih]

theorem nextWord_allGap {g : Text} (hg : Gap g) : nextWord expects g = .atEnd := by
  have hskip : nextWord expects (g ++ []) = nextWord expects [] := nextWord_gap hg []
  rwa [List.append_nil, nextWord_nil] at hskip

/-- What comes after a last comment either belongs to it or is skipped as well. -/
theorem nextWord_lastComment_gap {body x : Text} (hbody : .scalar '\n' ∉ body) (hx : Gap x) :
    nextWord expects (.scalar '#' :: (body ++ x)) = .atEnd := by
  induction hx generalizing body with
  | nil => rw [List.append_nil, nextWord_lastComment hbody]
  | @blank c x _ hx ih =>
    by_cases hc : c = .scalar '\n'
    · rw [hc, nextWord_comment hbody, nextWord_allGap hx]
    · have hbody' : .scalar '\n' ∉ body ++ [c] := by simp [hbody, Ne.symm hc]
      simpa using ih hbody'
  | @comment body' x hbody' hx ih =>
    have hboth : .scalar '\n' ∉ body ++ .scalar '#' :: body' := by simp [hbody, hbody']
    have hskip : nextWord expects (.scalar '#' :: (body ++ .scalar '#' :: body' ++ .scalar '\n' :: x)) =
        nextWord expects x := nextWord_comment hboth x
    rw [nextWord_allGap hx] at hskip
    simpa using hskip

/-- A text begins with a gap, after which it ends, goes on with a last comment, or goes on with
neither a blank nor a comment. -/
theorem exists_gap (t : Text) :
    ∃ g t', Gap g ∧ t = g ++ t' ∧
      (t' = [] ∨ (∃ body, t' = .scalar '#' :: body ∧ .scalar '\n' ∉ body) ∨
        ∃ c u, t' = c :: u ∧ Spelling.isBlank c = false ∧ c ≠ .scalar '#') := by
  -- What comes after a comment is shorter, but no tail of the text.
  induction hn : t.length using Nat.strong_induction_on generalizing t with
  | _ n ih =>
    cases t with
    | nil => exact ⟨[], [], .nil, rfl, .inl rfl⟩
    | cons c t =>
      by_cases hc : c = .scalar '#'
      · by_cases hline : .scalar '\n' ∈ t
        · obtain ⟨body, rest, rfl, hbody⟩ := List.eq_append_cons_of_mem hline
          obtain ⟨g, t', hg, rfl, ht'⟩ := ih rest.length (by simp [← hn]; omega) rest rfl
          exact ⟨_, t', .comment hbody hg, by simp [hc], ht'⟩
        · exact ⟨[], _, .nil, rfl, .inr (.inl ⟨t, by rw [hc], hline⟩)⟩
      · cases hblank : Spelling.isBlank c with
        | false => exact ⟨[], _, .nil, rfl, .inr (.inr ⟨c, t, rfl, hblank, hc⟩)⟩
        | true =>
          obtain ⟨g, t', hg, rfl, ht'⟩ := ih t.length (by simp [← hn]) t rfl
          exact ⟨c :: g, t', .blank hblank hg, rfl, ht'⟩

/-! ### Words before a gap -/

namespace Text

variable {g : Text}

theorem BeginsGap.breaks (hg : g.BeginsGap) : g.Breaks ∧ g.head? ≠ some (.scalar ':') := by
  cases g with
  | nil => exact absurd hg id
  | cons c t =>
    have hc : c ∈ breakers ∧ c ≠ .scalar ':' := by
      rcases hg with hblank | rfl
      · rcases Spelling.isBlank_cases hblank with rfl | rfl | rfl | rfl | rfl <;> decide
      · decide
    exact ⟨⟨hc.1, fun h => absurd h hc.2⟩, fun h => hc.2 (Option.some.inj h)⟩

/-- What breaks off a word begins no further part of a word that is always spelled the same. -/
theorem Breaks.head_not_mem (hg : g.Breaks) {x : Terminal} {literal : Text}
    (h : x.literal? = some literal) : ∀ c ∈ g.head?, c ∉ literal.tail := by
  have hfree : ∀ x : Terminal, ((x.literal?.getD []).tail.all
      fun c => !breakers.contains c) = true := by
    intro x
    cases x <;> decide
  have hliteral := hfree x
  rw [h] at hliteral
  intro c hc hmem
  cases g with
  | nil => exact absurd hc (by simp)
  | cons d t =>
    obtain rfl : d = c := by simpa using hc
    have hd := List.all_eq_true.mp hliteral d hmem
    simp [hg.1] at hd

end Text

namespace Spelling

variable {g : Text}

theorem format?_append (hg : g.Breaks) (c : CodePoint) (u : Text) :
    format? (c :: (u ++ g)) = format? (c :: u) := by
  have htake := hg.takeWhile_append (p := isNamePart) (by decide) u
  unfold format?
  split
  · next ht =>
    obtain ⟨rfl, rfl⟩ := List.cons.inj ht
    simp only [htake]
  · next hother =>
    split
    · next ht =>
      obtain ⟨rfl, rfl⟩ := List.cons.inj ht
      exact absurd rfl (hother _)
    · rfl

end Spelling

namespace Terminal

variable {x : Terminal} {g u r : Text}

/-- Before what breaks it off a word ends as it does at the end of the text. Names are another matter
where that begins with a colon. -/
theorem match?_append_breaks (hg : g.Breaks) (hkept : x ∉ ignored) (hstring : x ≠ .string)
    (hident : x ≠ .ident) (hu : u ≠ []) : x.match? (u ++ g) = x.match? u := by
  cases hliteral : x.literal? with
  | some literal =>
    have hpre : literal <+: u ++ g ↔ literal <+: u := by
      refine ⟨fun h => ?_, fun h => h.trans (List.prefix_append u g)⟩
      rcases List.prefix_or_prefix_of_prefix h (List.prefix_append u g) with h' | ⟨m, rfl⟩
      · exact h'
      · -- What goes beyond the word would begin as the other text does.
        have hm := (List.prefix_append_right_inj u).mp h
        cases m with
        | nil => simp
        | cons c m =>
          obtain ⟨rest, rfl⟩ := hm
          obtain ⟨d, u, rfl⟩ := List.exists_cons_of_ne_nil hu
          exact absurd (by simp) (hg.head_not_mem hliteral c rfl)
    rw [match?_literal hliteral, match?_literal hliteral]
    simp only [hpre]
  | none =>
    obtain ⟨c, u, rfl⟩ := List.exists_cons_of_ne_nil hu
    cases x with
    | field | varName =>
      simp only [match?, List.cons_append, Spelling.signed?, Spelling.plainName?_append hg]
    | format => exact Spelling.format?_append hg c u
    | number => exact Spelling.number?_append hg _
    | string => exact absurd rfl hstring
    | ident => exact absurd rfl hident
    | blank | comment => exact absurd hkept (by decide)
    | _ => simp [match?, literal?] at hliteral ⊢

/-- These match wherever they may begin. -/
theorem match?_ne_none_of_begins (hx : x ∈ [ident, number, blank, comment]) {c : CodePoint}
    (h : x.begins c = true) (t : Text) : x.match? (c :: t) ≠ none := by
  simp only [List.mem_cons, List.not_mem_nil, or_false] at hx
  rcases hx with rfl | rfl | rfl | rfl <;> simp only [begins] at h
  · simp [match?, Spelling.name?, Spelling.plainName?, h]
  · simp [match?, Spelling.number?, Spelling.digits, h]
  · simp [match?, Spelling.blanks?, h]
  · rw [of_decide_eq_true h]
    exact Option.some_ne_none _

/-- What does not match a text matches no beginning of it. -/
theorem match?_eq_none_cut (h : x.match? (u ++ r) = none) : x.match? u = none := by
  cases hliteral : x.literal? with
  | some literal =>
    rw [match?_literal hliteral] at h ⊢
    split at h
    · exact absurd h (by simp)
    · next hpre => exact if_neg fun hu => hpre (hu.trans (List.prefix_append u r))
  | none =>
    cases u with
    | nil => cases x <;> rfl
    | cons c u =>
      -- Whether these match is seen from the first two code points.
      cases x with
      | field | varName =>
        simp only [match?, List.cons_append, Spelling.signed?] at h ⊢
        split at h
        · next hc =>
          rw [if_pos hc, Spelling.plainName?_eq_none_cut (Option.map_eq_none_iff.mp h),
            Option.map_none]
        · next hc => exact if_neg hc
      | string =>
        by_contra hmatch
        obtain ⟨m, hm⟩ := Option.ne_none_iff_exists'.mp hmatch
        obtain ⟨⟨rest, hrest⟩, hagain⟩ := Spelling.string?_eq_some hm
        rw [← hrest, List.append_assoc] at h
        exact absurd ((hagain _).symm.trans h) (by simp)
      | format =>
        by_contra hmatch
        obtain ⟨m, hm⟩ := Option.ne_none_iff_exists'.mp hmatch
        obtain ⟨rest, ht, hpart, -⟩ := Spelling.format?_eq_some.mp hm
        have hpart' : (rest ++ r).takeWhile Spelling.isNamePart ≠ [] := fun hnil =>
          hpart (Spelling.takeWhile_cut (u := []) hnil)
        have hmatch' := Spelling.format?_eq_some.mpr ⟨rest ++ r, rfl, hpart', rfl⟩
        rw [ht, List.cons_append] at h
        exact absurd (hmatch'.symm.trans h) (by simp)
      | ident | number | blank | comment =>
        by_contra hmatch
        obtain ⟨m, hm⟩ := Option.ne_none_iff_exists'.mp hmatch
        exact match?_ne_none_of_begins (by simp) (begins_of_match? hm) _ h
      | _ => simp [match?, literal?] at hliteral ⊢

/-- What is matched is matched where words are broken off further on. -/
theorem match?_before_breaks {v : Text} (hg : g.Breaks)
    (hcolon : g.head? = some (.scalar ':') → v ≠ ":") (hkept : x ∉ ignored)
    (h : x.match? (u ++ (v ++ r)) = some u) : x.match? (u ++ (v ++ g)) = some u := by
  by_cases hstring : x = string
  · subst hstring
    exact (Spelling.string?_eq_some h).2 (v ++ g)
  · rw [← List.append_assoc]
    by_cases hident : x = ident
    · subst hident
      exact Spelling.name?_append hg (match?_cut h) fun hhead heq =>
        hcolon hhead (List.append_cancel_left heq)
    · have hne : u ++ v ≠ [] := List.append_ne_nil_of_left_ne_nil (match?_ne_nil h) v
      rw [match?_append_breaks hg hkept hstring hident hne, match?_cut h]

end Terminal

/-- The token at the beginning of a text is found again where the same terminals match. -/
theorem scan?_congr {t t' : Text} {l : Lexeme} (h : scan? expects t = some l)
    (hkept : l.terminal ∉ Terminal.ignored)
    (hnone : ∀ x : Terminal, x.match? t = none → x.match? t' = none)
    (hsome : ∀ x ∉ Terminal.ignored, x.match? t = some l.text → x.match? t' = some l.text) :
    scan? expects t' = some l := by
  obtain ⟨before, x, after, horder, hx, hbefore⟩ := List.findSome?_eq_some_iff.mp h
  rw [scan?, horder, List.findSome?_append, List.findSome?_eq_none_iff.mpr]
  · split at hx
    · next htried =>
      obtain ⟨text, hmatch, rfl⟩ := Option.map_eq_some_iff.mp hx
      have hx : x ∉ Terminal.ignored := by
        by_cases hident : x = .ident
        · rw [hident]
          decide
        · simpa only [if_neg hident] using hkept
      rw [Option.none_or, List.findSome?_cons, if_pos htried, hsome x hx hmatch]
      rfl
    · exact absurd hx (by simp)
  · intro y hy
    have hy := hbefore y hy
    split at hy
    · next htried => rw [if_pos htried, hnone y (Option.map_eq_none_iff.mp hy), Option.map_none]
    · next htried => exact if_neg htried

/-- A token is cut as before where words are broken off further on. Where they are by a colon, no
single colon may come after the token. -/
theorem scan?_before_breaks {l : Lexeme} {v r g : Text} (hg : g.Breaks)
    (hcolon : g.head? = some (.scalar ':') → v ≠ ":") (hkept : l.terminal ∉ Terminal.ignored)
    (h : scan? expects (l.text ++ (v ++ r)) = some l) :
    scan? expects (l.text ++ (v ++ g)) = some l := by
  obtain ⟨x, -, -, hmatch, -⟩ := exists_match_of_scan? h
  obtain ⟨c, u, hu⟩ := List.exists_cons_of_ne_nil (Terminal.match?_ne_nil hmatch)
  refine scan?_congr h hkept (fun y hy => ?_) fun y hy => Terminal.match?_before_breaks hg hcolon hy
  rw [← List.append_assoc, hu, List.cons_append, List.cons_append] at hy ⊢
  by_cases hbegun : y ∈ [Terminal.ident, .number, .blank, .comment]
  · -- These match wherever they may begin, so they do not begin here.
    refine Terminal.match?_eq_none_of_begins (Bool.eq_false_iff.mpr fun hbegins => ?_) _
    exact Terminal.match?_ne_none_of_begins hbegun hbegins _ hy
  · by_cases hstring : y = .string
    · -- Only a string literal begins with a quote.
      have honly : ∀ z : Terminal, z.begins (.scalar '"') = true → z = .string := by
        intro z
        cases z <;> decide
      refine Terminal.match?_eq_none_of_begins (Bool.eq_false_iff.mpr fun hbegins => ?_) _
      rw [hstring] at hbegins hy
      obtain rfl : c = .scalar '"' := of_decide_eq_true hbegins
      rw [← List.append_assoc, hu, List.cons_append, List.cons_append] at hmatch
      rw [honly x (Terminal.begins_of_match? hmatch), hy] at hmatch
      exact absurd hmatch (by simp)
    · have hcut := Terminal.match?_eq_none_cut (u := c :: (u ++ v)) hy
      have hignored : y ∉ Terminal.ignored := fun h => hbegun (by
        simp only [Terminal.ignored, List.mem_cons] at h ⊢
        exact .inr (.inr h))
      have hident : y ≠ .ident := fun h => hbegun (by simp [h])
      rw [← List.cons_append,
        Terminal.match?_append_breaks hg hignored hstring hident (by simp), hcut]

/-! ### Gaps put in between tokens -/

/-- A text that a stack reads, with gaps put in before, between and after the tokens. After the last
one there may be a comment that the end of the text ends. -/
inductive Stack.Respaced : Stack → Text → Text → Prop
  | token {stack after : Stack} {g g' r r' : Text} {l : Lexeme} (hgap : Gap.Filled g g')
    (hscan : scan? stack.row.expects (l.text ++ r) = some l) (hkept : l.terminal ∉ Terminal.ignored)
    (hfeed : stack.feed l = .shifted after) (hrest : Respaced after r r') :
    Respaced stack (g ++ (l.text ++ r)) (g' ++ (l.text ++ r'))
  | atEnd {stack : Stack} {g g' : Text} (hgap : Gap.Filled g g') : Respaced stack g g'
  | lastComment {stack : Stack} {g g' body x : Text} (hgap : Gap.Filled g g')
    (hbody : .scalar '\n' ∉ body) (hx : Gap x) :
    Respaced stack (g ++ .scalar '#' :: body) (g' ++ .scalar '#' :: (body ++ x))

/-- After a gap a token that is scanned comes next. -/
theorem nextWord_gap_token {l : Lexeme} {g r : Text} (hg : Gap g)
    (hscan : scan? expects (l.text ++ r) = some l) (hkept : l.terminal ∉ Terminal.ignored) :
    nextWord expects (g ++ (l.text ++ r)) = .token l r := by
  have hne : l.text ++ r ≠ [] := List.append_ne_nil_of_left_ne_nil (scan?_ne_nil hscan) r
  rw [nextWord_gap hg, nextWord_token hne hscan hkept, List.drop_left' rfl]

namespace Stack

variable {stack : Stack} {t t' : Text}

theorem run_token {after : Stack} {l : Lexeme} {g r : Text} (hg : Gap g)
    (hscan : scan? stack.row.expects (l.text ++ r) = some l) (hkept : l.terminal ∉ Terminal.ignored)
    (hfeed : stack.feed l = .shifted after) : stack.run (g ++ (l.text ++ r)) = after.run r := by
  rw [Stack.run_eq, nextWord_gap_token hg hscan hkept]
  simp only [hfeed]

namespace Respaced

/-- Nothing is taken away. -/
theorem sublist (h : Respaced stack t t') : t.Sublist t' := by
  induction h with
  | token hgap _ _ _ _ ih => exact hgap.sublist.append ((List.Sublist.refl _).append ih)
  | atEnd hgap => exact hgap.sublist
  | lastComment hgap _ _ => exact hgap.sublist.append ((List.sublist_append_left _ _).cons_cons _)

/-- The two texts are the same up to a place where a gap begins in the second. -/
theorem eq_or_exists_gap (h : Respaced stack t t') :
    t = t' ∨ ∃ v r g, t = v ++ r ∧ t' = v ++ g ∧ g.BeginsGap := by
  induction h with
  | @token stack after g g' r r' l hgap hscan hkept hfeed hrest ih =>
    rcases hgap.right.eq_nil_or_begins with rfl | hbegins
    · obtain rfl := List.sublist_nil.mp hgap.sublist
      rcases ih with rfl | ⟨v, r₁, g₁, rfl, rfl, hbegins⟩
      · exact .inl rfl
      · exact .inr ⟨l.text ++ v, r₁, g₁, by simp, by simp, hbegins⟩
    · exact .inr ⟨[], _, _, rfl, rfl, hbegins _⟩
  | atEnd hgap =>
    rcases hgap.right.eq_nil_or_begins with rfl | hbegins
    · exact .inl (List.sublist_nil.mp hgap.sublist)
    · exact .inr ⟨[], _, _, rfl, rfl, by simpa using hbegins []⟩
  | lastComment hgap _ _ =>
    refine .inr ⟨[], _, _, rfl, rfl, ?_⟩
    rcases hgap.right.eq_nil_or_begins with rfl | hbegins
    · exact .inr rfl
    · exact hbegins _

/-- What a run makes of a text does not depend on the gaps that are put in. -/
theorem run_eq (h : Respaced stack t t') : stack.run t' = stack.run t := by
  induction h with
  | @token stack after g g' r r' l hgap hscan hkept hfeed hrest ih =>
    have hscan' : scan? stack.row.expects (l.text ++ r') = some l := by
      rcases hrest.eq_or_exists_gap with rfl | ⟨v, r₁, g₁, rfl, rfl, hbegins⟩
      · exact hscan
      · obtain ⟨hbreaks, hcolon⟩ := hbegins.breaks
        exact scan?_before_breaks hbreaks (fun h => absurd h hcolon) hkept hscan
    rw [run_token hgap.right hscan' hkept hfeed, run_token hgap.left hscan hkept hfeed, ih]
  | atEnd hgap =>
    rw [Stack.run_eq, Stack.run_eq, nextWord_allGap hgap.right, nextWord_allGap hgap.left]
  | lastComment hgap hbody hx =>
    rw [Stack.run_eq, Stack.run_eq, nextWord_gap hgap.right, nextWord_gap hgap.left,
      nextWord_lastComment_gap hbody hx, nextWord_lastComment hbody]

end Respaced

/-- A text over which a run ends well is such a text with nothing put in. -/
theorem respaced_self {d : QueryDerivation} (h : stack.run t = some d) : Respaced stack t t := by
  -- A token is never empty, so the text after it is shorter.
  induction hn : t.length using Nat.strong_induction_on generalizing stack t with
  | _ n ih =>
    obtain ⟨g, u, hg, rfl, rfl | ⟨body, rfl, hbody⟩ | ⟨c, u, rfl, hblank, hcomment⟩⟩ := exists_gap t
    · exact .atEnd (by simpa using hg.filled_self)
    · simpa using Respaced.lastComment hg.filled_self hbody .nil
    · rw [Stack.run_eq, nextWord_gap hg] at h
      cases hscan : scan? stack.row.expects (c :: u) with
      | none => simp [nextWord_stuck (List.cons_ne_nil c u) hscan] at h
      | some l =>
        obtain ⟨x, -, -, hmatch, hterminal⟩ := exists_match_of_scan? hscan
        obtain ⟨r, hr⟩ := Terminal.match?_isPrefix hmatch
        have hkept : l.terminal ∉ Terminal.ignored := by
          intro hl
          have hkeywords : ∀ k ∈ Terminal.keywords, k ∉ Terminal.ignored := by decide
          obtain rfl := hterminal.resolve_right fun hk => hkeywords _ hk.2.1 hl
          have hbegins := Terminal.begins_of_match? hmatch
          have hcases : l.terminal = .blank ∨ l.terminal = .comment := by
            simpa [Terminal.ignored] using hl
          rcases hcases with hl | hl <;> simp_all [Terminal.begins]
        rw [nextWord_token (List.cons_ne_nil c u) hscan hkept] at h
        cases hfeed : stack.feed l with
        | refused s => simp [hfeed] at h
        | accepted d' => exact absurd (feed_accepted hfeed) (scan?_ne_endOfInput hscan)
        | shifted after =>
          simp only [hfeed, ← hr, List.drop_left' rfl] at h
          rw [← hr] at hscan hn ⊢
          have hl := List.length_pos_iff.mpr (scan?_ne_nil hscan)
          exact .token hg.filled_self hscan hkept hfeed (ih r.length (by simp [← hn]; omega) h rfl)

end Stack

namespace Query

/-- A text that is read, with gaps put in between its tokens, is read as the same query. -/
theorem parse_respaced {t : Text} {q : Query} (h : parse t = .ok q) :
    Stack.Respaced [] t t ∧ ∀ t', Stack.Respaced [] t t' → parse t' = .ok q := by
  cases hblank : t.isBlank with
  | true => simp [parse, hblank] at h
  | false =>
    obtain ⟨d, hrun, heval⟩ := (parse_eq_ok_iff hblank).mp h
    refine ⟨Stack.respaced_self hrun, fun t' ht' => ?_⟩
    have hblank' : t'.isBlank = false := by
      obtain ⟨c, hc, hblank⟩ := List.all_eq_false.mp hblank
      exact List.all_eq_false.mpr ⟨c, ht'.sublist.mem hc, hblank⟩
    exact (parse_eq_ok_iff hblank').mpr ⟨d, ht'.run_eq.trans hrun, heval⟩

/-- A comment and a tab between a minus and a number, and what is added to a last comment. -/
theorem parse_respaced_comments :
    parse "-1 #c" = .ok (unary "-" (number "1")) ∧
      parse "-#a\n\t1 #c#d\n" = .ok (unary "-" (number "1")) := by
  have hread : parse "-1 #c" = .ok (unary "-" (number "1")) :=
    parse_eq_ok_iff_toOption.mpr (by decide +kernel)
  have hminus : Stack.feed ⟨.minus, "-"⟩ [] = .shifted [⟨.t .minus, .leaf _ "-", 32⟩] :=
    Stack.feed_shift (by decide +kernel)
  have hone : Stack.feed ⟨.number, "1"⟩ [⟨.t .minus, .leaf _ "-", 32⟩] =
      .shifted [⟨.t .number, .leaf _ "1", 12⟩, ⟨.t .minus, .leaf _ "-", 32⟩] :=
    Stack.feed_shift (by decide +kernel)
  have hgap : Gap "#a\n\t" := @Gap.comment "a" "\t" (by decide) (.blank (by decide) .nil)
  have hspace : Gap.Filled " " " " := .blank (by decide) .nil
  have hadded : Gap "#d\n" := @Gap.comment "d" "" (by decide) .nil
  have hlast : Stack.Respaced [⟨.t .number, .leaf _ "1", 12⟩, ⟨.t .minus, .leaf _ "-", 32⟩]
      " #c" " #c#d\n" :=
    @Stack.Respaced.lastComment _ " " " " "c" "#d\n" hspace (by decide) hadded
  have hnumber : Stack.Respaced [⟨.t .minus, .leaf _ "-", 32⟩] "1 #c" "#a\n\t1 #c#d\n" :=
    @Stack.Respaced.token _ _ "" "#a\n\t" _ _ ⟨.number, "1"⟩ (.insert hgap .nil)
      (by decide +kernel) (by decide) hone hlast
  refine ⟨hread, (parse_respaced hread).2 _ ?_⟩
  exact @Stack.Respaced.token _ _ "" "" _ _ ⟨.minus, "-"⟩ .nil (by decide +kernel) (by decide)
    hminus hnumber

end Query

end JqFlow
