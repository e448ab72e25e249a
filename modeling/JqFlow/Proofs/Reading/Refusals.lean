import JqFlow.Proofs.Reading.Levels

/-!
# Texts that are refused

No run gets over two colons in a row, over a function name `label` where a pipe begins, or over a
comparison of a comparison; nor over an assignment to an assignment.

## Main statements

- `reads_joinedField`: a field with a name that has several parts
- `reads_labelName`: a function name `label` where a pipe begins
- `reads_clash`: an operator after an operation of its own level, which groups to no side
-/

namespace JqFlow

open Automaton (State leads apart target)
open Text (Closes)

namespace Stack

/-! ### What has been shifted -/

theorem feedWithin_shifted {n : Nat} {l : Lexeme} {stack after : Stack}
    (h : feedWithin n l stack = .shifted after) :
    ∃ (below : Stack) (next : State), below.row.shifts.lookup l.terminal = some next ∧
      after = ⟨.t l.terminal, .leaf _ l.text, next⟩ :: below := by
  induction n generalizing stack with
  | zero => exact absurd h (by simp [feedWithin])
  | succ n ih =>
    rw [feedWithin] at h
    split at h
    · next next hshift => exact ⟨stack, next, hshift, (Fed.shifted.inj h).symm⟩
    · split at h
      · exact absurd h (by simp)
      · split at h
        · exact absurd h (by simp)
        · split at h
          · split at h
            · exact absurd h (by simp)
            · exact ih h
          · exact ih h

/-- A token that is shifted is on top of the stack. -/
theorem feed_shifted {l : Lexeme} {stack after : Stack} (h : stack.feed l = .shifted after) :
    ∃ (below : Stack) (next : State), below.row.shifts.lookup l.terminal = some next ∧
      after = ⟨.t l.terminal, .leaf _ l.text, next⟩ :: below :=
  feedWithin_shifted h

theorem feedWithin_accepted {n : Nat} {l : Lexeme} {stack : Stack} {d : QueryDerivation}
    (h : feedWithin n l stack = .accepted d) : l.terminal = .endOfInput := by
  induction n generalizing stack with
  | zero => exact absurd h (by simp [feedWithin])
  | succ n ih =>
    rw [feedWithin] at h
    split at h
    · exact absurd h (by simp)
    · split at h
      · exact absurd h (by simp)
      · split at h
        · exact absurd h (by simp)
        · split at h
          · split at h
            · assumption
            · exact ih h
          · exact ih h

/-- Only the end of a text makes a query whole. -/
theorem feed_accepted {l : Lexeme} {stack : Stack} {d : QueryDerivation}
    (h : stack.feed l = .accepted d) : l.terminal = .endOfInput :=
  feedWithin_accepted h

/-- The last token that has been read is on top of the stack. -/
theorem read_top {l : Lexeme} {w : List Lexeme} {stack after : Stack}
    (h : stack.read (l :: w) = some after) :
    ∃ (x : Terminal) (d : Derivation (.t x)) (next : State) (below : Stack),
      after = ⟨.t x, d, next⟩ :: below := by
  induction w generalizing l stack with
  | nil =>
    rw [read] at h
    split at h
    · split at h
      · next top hfeed =>
        obtain ⟨below, next, -, htop⟩ := feed_shifted hfeed
        exact ⟨_, _, next, below, (Option.some.inj h).symm.trans htop⟩
      · exact absurd h (by simp)
    · exact absurd h (by simp)
  | cons l' w ih =>
    rw [read] at h
    split at h
    · split at h
      · exact ih h
      · exact absurd h (by simp)
    · exact absurd h (by simp)

/-! ### Where a run gets stuck -/

/-- Where nothing that is expected begins as the text does, a run gets stuck. -/
theorem run_stuck {stack : Stack} {c : CodePoint} (t : Text)
    (h : ∀ x : Terminal, stack.row.expects x = true ∨ x ∈ Terminal.ignored → x.begins c = false) :
    stack.run (c :: t) = none := by
  have hscan : scan? stack.row.expects (c :: t) = none := by
    refine List.findSome?_eq_none_iff.mpr ?_
    intro x _
    split
    · next htried =>
      rw [Terminal.match?_eq_none_of_begins (h x (by simpa using htried))]
      rfl
    · rfl
  rw [run_eq, nextWord_stuck (by simp) hscan]

/-- A token that is expected and refused ends a run. -/
theorem run_refused {stack : Stack} {l : Lexeme} {t : Text} (hl : l.Stands t)
    (hident : l.terminal ≠ .ident) (hexpects : stack.row.expects l.terminal = true)
    (h : stack.feed l = .refused after) : stack.run (l.text ++ t) = none := by
  rw [run_word hl hexpects (by simp [Automaton.Row.sees, hident]), h]

/-- Where no colon is expected none is read. -/
theorem run_no_colon {stack : Stack} (h : stack.row.expects .colon = false) (t : Text) :
    stack.run (.scalar ':' :: t) = none := by
  refine run_stuck t fun x hx => ?_
  cases hbegins : x.begins (.scalar ':') with
  | false => rfl
  | true =>
    obtain rfl : x = .colon := by
      cases x <;> first
        | rfl
        | exact absurd hbegins (by decide)
    rw [h] at hx
    exact absurd hx (by decide)

theorem after_colon :
    (Automaton.rows.toList.all fun r => (r.shifts.lookup .colon).all fun next =>
      !(Automaton.row next).expects .colon && !(Automaton.row next).expects .endOfInput) = true := by
  decide +kernel

/-- After a colon neither another one is expected nor the end of the text. -/
theorem run_after_colon (stack : Stack) {t : Text}
    (h : ∀ after : Stack, after.row.expects .colon = false →
      after.row.expects .endOfInput = false → after.run t = none) :
    stack.run (.scalar ':' :: t) = none := by
  cases hexpects : stack.row.expects .colon with
  | false => exact run_no_colon hexpects t
  | true =>
    have hrun := run_word (l := Lexeme.of .colon) (t := t)
      (Lexeme.stands_bracket (by decide) _) hexpects rfl
    refine hrun.trans ?_
    cases hfeed : stack.feed (Lexeme.of .colon) with
    | refused after => rfl
    | accepted d => exact absurd (feed_accepted hfeed) (by decide)
    | shifted after =>
      obtain ⟨below, next, hnext, rfl⟩ := feed_shifted hfeed
      have hmem : below.row ∈ Automaton.rows.toList := Automaton.row_mem_of_shift hnext
      have hall := List.all_eq_true.mp after_colon _ hmem
      have hnext : below.row.shifts.lookup .colon = some next := hnext
      simp only [hnext, Option.all_some, Bool.and_eq_true, Bool.not_eq_true'] at hall
      exact h _ hall.1 hall.2

/-- No run gets over two colons in a row. -/
theorem run_colons (stack : Stack) (t : Text) :
    stack.run (.scalar ':' :: .scalar ':' :: t) = none :=
  run_after_colon stack fun _ hcolon _ => run_no_colon hcolon t

/-- No run ends with a colon. -/
theorem run_colon (stack : Stack) : stack.run ":" = none := by
  refine run_after_colon (t := []) stack fun after _ hend => ?_
  rw [Automaton.Row.expects, Bool.or_eq_false_iff, Option.isSome_eq_false_iff,
    Option.isSome_eq_false_iff, Option.isNone_iff_eq_none, Option.isNone_iff_eq_none] at hend
  rw [run_eq, nextWord_nil, feed_refuse hend.1 hend.2]
  rfl

end Stack

/-! ### A token that begins a phrase -/

/-- Where a phrase can come, the first token of one of its productions is shifted. -/
theorem Stack.feed_first {p : Production} {k : Terminal} {ss : List Symbol} {early stack : Stack}
    {next : State} {l : Lexeme} (hp : p.rhs = .t k :: ss) (hl : l.terminal = k)
    (hsettles : Settles l early stack) (hnext : stack.row.next? (.n p.lhs) = some next) :
    ∃ state, stack.row.shifts.lookup k = some state ∧
      early.feed l = .shifted (⟨.t l.terminal, .leaf _ l.text, state⟩ :: stack) := by
  obtain ⟨hleads, -, -⟩ := Automaton.leads_of_goto hnext
  rw [hp, leads] at hleads
  cases hshift : (Automaton.row stack.state).next? (.t k) with
  | none => simp [hshift] at hleads
  | some state =>
    refine ⟨state, hshift, ?_⟩
    rw [hsettles.feed]
    exact feed_shift (hl ▸ hshift)

/-- A name with several parts is a plain name with two colons and more after it. -/
theorem Spelling.joined_of_name {u : Text} (h : name? u = some u) (hplain : u.isPlainName = false) :
    ∃ first rest : Text, first.isPlainName = true ∧
      u = first ++ .scalar ':' :: .scalar ':' :: rest := by
  obtain ⟨first, hfirst, happend⟩ := Option.map_eq_some_iff.mp h
  have hfirst' : first.isPlainName = true := by
    rw [← plainName?_eq_some]
    cases u with
    | nil => exact absurd hfirst (by simp [plainName?])
    | cons c u =>
      rw [plainName?] at hfirst
      split at hfirst
      · next hstart =>
        rw [← Option.some.inj hfirst, plainName?, if_pos hstart, List.takeWhile_takeWhile]
        simp
      · exact absurd hfirst (by simp)
  cases hparts : nameParts u.length (u.drop first.length) with
  | nil =>
    rw [hparts, List.append_nil] at happend
    rw [happend, hplain] at hfirst'
    exact absurd hfirst' (by simp)
  | cons c parts =>
    rw [hparts] at happend
    unfold nameParts at hparts
    split at hparts
    · split at hparts
      · rw [← hparts] at happend
        exact ⟨first, _, hfirst', happend.symm⟩
      · exact absurd hparts (by simp)
    · exact absurd hparts (by simp)

/-- A field with a name that has several parts is refused. -/
theorem reads_joinedField {name : Text} (h : Spelling.name? name = some name)
    (hplain : name.isPlainName = false) (lead isOpen : Bool) :
    ReadsAt 2 lead isOpen (.scalar '.' :: name) none := by
  obtain ⟨first, rest, hfirst, rfl⟩ := Spelling.joined_of_name h hplain
  refine ⟨⟨.field, .scalar '.' :: first⟩, show Terminal.field ∈ Nonterminal.primary.first by decide,
    ?_⟩
  intro early stack next hsettles hnext _ r _
  obtain ⟨state, -, hfeed⟩ := Stack.feed_first (p := .field) rfl rfl hsettles hnext
  have hstands : Lexeme.Stands ⟨.field, .scalar '.' :: first⟩
      (.scalar ':' :: .scalar ':' :: rest ++ r) :=
    Lexeme.stands_field hfirst rfl
  have hrun := Stack.run_word hstands (Stack.expects_of_shifted hfeed) rfl
  rw [hfeed] at hrun
  rw [List.cons_append, List.append_assoc]
  exact hrun.trans (Stack.run_colons _ _)

/-! ### A function name where a pipe begins -/

/-- The state after the keyword `label`. -/
def Automaton.labelled : State := 5

theorem Automaton.shifts_label :
    (rows.toList.all fun r => (r.shifts.lookup .kwLabel).all fun s => s = labelled) = true := by
  decide +kernel

theorem Automaton.row_labelled :
    (row labelled).shifts = [(.varName, 40)] ∧ (row labelled).finish.isNone = true := by
  decide +kernel

/-- After the keyword `label`, only a variable is expected. -/
theorem Automaton.expects_labelled {x : Terminal} (h : (row labelled).expects x = true) :
    x = .varName := by
  obtain ⟨hshifts, hfinish⟩ := row_labelled
  rw [Row.expects, Row.finish?, Option.isNone_iff_eq_none.mp hfinish, hshifts] at h
  by_contra hx
  rw [List.lookup_cons, beq_eq_false_iff_ne.mpr hx] at h
  exact absurd h (by simp)

namespace Stack

variable {stack : Stack} {t : Text}

theorem run_labelled_cons (hstate : stack.state = Automaton.labelled) {c : CodePoint}
    (hc : Text.followsBlank c = true) : stack.run (c :: t) = none := by
  simp only [Text.followsBlank, Bool.and_eq_true, Bool.not_eq_true', bne_iff_ne] at hc
  refine run_stuck t ?_
  rintro x (hx | hx)
  · rw [row, hstate] at hx
    rw [Automaton.expects_labelled hx]
    simpa [Terminal.begins] using hc.1.2
  · rcases List.mem_cons.mp hx with rfl | hx
    · exact hc.1.1
    · rw [List.mem_singleton.mp hx]
      simpa [Terminal.begins] using hc.2

/-- After the keyword `label`, no run gets over what can come after a function name. -/
theorem run_labelled (hstate : stack.state = Automaton.labelled)
    (ht : Closes t ∨ t.head? = some (.scalar '(')) : stack.run t = none := by
  cases t with
  | nil =>
    have hrefused : stack.feed endToken = .refused stack := by
      refine feed_refuse ?_ ?_ <;> rw [row, hstate] <;> decide +kernel
    rw [run_eq, nextWord_nil]
    simp only [hrefused, Fed.accepted?]
  | cons c t =>
    by_cases hblank : c = .scalar ' '
    · subst hblank
      obtain ⟨-, -, hfollow⟩ := ht.resolve_right (by simp)
      obtain ⟨d, hd, hfollow⟩ := hfollow rfl
      cases t with
      | nil => exact absurd hd (by simp)
      | cons d' t =>
        obtain rfl := Option.some.inj hd
        rw [run_blank stack (by decide)]
        exact run_labelled_cons hstate hfollow
    · refine run_labelled_cons hstate ?_
      have hall : Text.closers.all (fun c => c = .scalar ' ' || Text.followsBlank c) = true := by
        decide
      rcases ht with ht | ht
      · simpa [hblank] using List.all_eq_true.mp hall c ht.1
      · rw [Option.some.inj ht]
        decide

end Stack

/-- A function name `label` is refused where a pipe begins. -/
theorem reads_labelName {t : Text} (ht : t = [] ∨ t.head? = some (.scalar '(')) (isOpen : Bool) :
    ReadsAt 13 false isOpen ("label" ++ t) none := by
  refine ⟨Lexeme.of .kwLabel, by decide, ?_⟩
  intro early stack next hsettles hnext _ r hr
  obtain ⟨state, hshift, hfeed⟩ := Stack.feed_first (p := .label) rfl rfl hsettles hnext
  have hstate : state = Automaton.labelled := by
    have hmem : stack.row ∈ Automaton.rows.toList := Automaton.row_mem_of_goto hnext
    have hall := List.all_eq_true.mp Automaton.shifts_label _ hmem
    rw [hshift] at hall
    simpa using hall
  have hafter : Closes (t ++ r) ∨ (t ++ r).head? = some (.scalar '(') := by
    rcases ht with rfl | ht
    · exact .inl hr
    · cases t with
      | nil => exact absurd ht (by simp)
      | cons c t => exact .inr ht
  have hbreaks : (t ++ r).Breaks := by
    rcases hafter with h | h
    · exact h.breaks
    · cases hcons : t ++ r with
      | nil => trivial
      | cons c u =>
        rw [hcons] at h
        rw [Option.some.inj h]
        exact ⟨by decide, fun heq => absurd heq (by decide)⟩
  have hrun := Stack.run_word (Lexeme.stands_keyword (k := .kwLabel) (by decide) hbreaks)
    (Stack.expects_of_shifted hfeed) rfl
  rw [hfeed] at hrun
  rw [List.append_assoc]
  exact hrun.trans (Stack.run_labelled hstate hafter)

/-! ### Operators that group to no side -/

/-- The signs of the operators that group to no side, with what their sides are. -/
def Nonterminal.lone : List (Nonterminal × Nonterminal) :=
  [(.cmpSym, .additive), (.assignSym, .orExpr)]

theorem Automaton.refuses_lone :
    (rows.toList.all fun r => Nonterminal.lone.all fun (sign, side) =>
      match (r.gotos.lookup sign).bind fun s => (row s).gotos.lookup side with
      | none => true
      | some s => sign.first.all fun k =>
          ((row s).shifts.lookup k).isNone && ((row s).finish? k).isNone) = true := by
  decide +kernel

section Lone

variable {sign side : Nonterminal} {k : Terminal} {t u : Text} {isOpen : Bool}
  {os : Option (Symbol.Values [.n sign, .n side])}

/-- After an operator that groups to no side and its right side, no run gets over another operator of
its level. -/
theorem ReadsRest.clash (hlone : (sign, side) ∈ Nonterminal.lone) (hk : k ∈ sign.first)
    (h : ReadsRest [.n sign, .n side] isOpen t os)
    (hu : ∀ r, Closes r → Closes (u ++ r)) {v : Text}
    (hsign : u = .scalar ' ' :: ((Lexeme.of k).text ++ .scalar ' ' :: v)) :
    ReadsRest [.n sign, .n side] isOpen (t ++ u) none := by
  cases os with
  | none =>
    obtain ⟨l, hl, hrun⟩ := h
    refine ⟨l, hl, ?_⟩
    intro early stack after hsettles hleads hapart r hr
    rw [List.append_assoc]
    exact hrun early stack after hsettles hleads hapart (u ++ r) (hu r hr)
  | some vs =>
    have hfacts : Nonterminal.lone.all (fun p => p.1.first.all (fun k =>
        Terminal.signs.contains k && decide (k ∈ Automaton.follow false p.2) &&
          decide (k ∈ Automaton.follow true p.2) && k != .ident && k != .kwCatch) &&
        p.1 != .start && p.2 != .start) = true := by decide
    have hfact := List.all_eq_true.mp hfacts _ hlone
    simp only [Bool.and_eq_true, List.all_eq_true, decide_eq_true_eq, bne_iff_ne] at hfact
    obtain ⟨⟨hfact, hstart⟩, hstart'⟩ := hfact
    obtain ⟨⟨⟨⟨hsigns, hfollow⟩, hfollow'⟩, hident⟩, hcatch⟩ := hfact k hk
    obtain ⟨f, -, hnearest, hworded, -, hlayout⟩ := h
    obtain ⟨l, w, hyield, hl⟩ := f.first_yield (by simp)
    refine ⟨l, hl, ?_⟩
    intro early stack after hsettles hleads hapart r hr
    have hseen := f.seen_rest hworded hleads hapart (by simp)
    simp only [leads] at hleads
    cases hfirst : (Automaton.row stack.state).next? (.n sign) with
    | none => simp [hfirst] at hleads
    | some middle =>
      cases hsecond : (Automaton.row middle).next? (.n side) with
      | none => simp [hfirst, hsecond] at hleads
      | some last =>
        simp only [hfirst, hsecond, Bool.and_eq_true] at hleads
        -- The other operator may follow the right side as far as the states before it can tell.
        have hleads' : leads [k] stack.state [.n sign, .n side] = true := by
          simp only [leads, hfirst, hsecond, Bool.and_eq_true]
          refine ⟨hleads.1, ?_, trivial⟩
          cases (Automaton.row middle).isWide <;> simpa [Automaton.precedes, Symbol.heads]
        obtain ⟨before, hread, hsettled⟩ := @Forest.read_yield _ f (by simp [Ne.symm hstart, Ne.symm hstart'])
          hnearest stack [k] hleads' hseen (Lexeme.of k) (List.mem_singleton.mpr rfl)
          (fun _ => hcatch)
        have hearly : early.read f.yield = some before := by
          rw [hyield, hsettles.read w, ← hyield, hread]
        have hstate : (stack.push f).state = last := by
          simp [Stack.push_state, target, hfirst, hsecond]
        have hall := List.all_eq_true.mp Automaton.refuses_lone _ (Automaton.row_mem_of_goto hfirst)
        have hpair := List.all_eq_true.mp hall _ hlone
        have hfirst' : (Automaton.row stack.state).gotos.lookup sign = some middle := hfirst
        have hsecond' : (Automaton.row middle).gotos.lookup side = some last := hsecond
        simp only [hfirst', Option.bind_some, hsecond', List.all_eq_true, Bool.and_eq_true,
          Option.isNone_iff_eq_none] at hpair
        obtain ⟨hshift, hfinish⟩ := hpair k hk
        have hrefused : before.feed (Lexeme.of k) = .refused (stack.push f) := by
          rw [hsettled.feed]
          refine Stack.feed_refuse ?_ ?_
          · rw [Stack.row, hstate]
            exact hshift
          · rw [Stack.row, hstate]
            exact hfinish
        have hexpects : before.row.expects k = true := by
          refine hsettled.expects.resolve_left ?_
          -- The last token is on top of the one stack, and a phrase on top of the other.
          intro heq
          rw [hyield] at hread
          obtain ⟨x, d, next, below, htop⟩ := Stack.read_top hread
          obtain ⟨d', next', below', htop'⟩ : ∃ (d' : Derivation (.n side)) (next' : State)
              (below' : Stack), stack.push f = ⟨.n side, d', next'⟩ :: below' := by
            obtain _ | ⟨first, rest⟩ := f
            obtain _ | ⟨second, rest⟩ := rest
            obtain _ | _ := rest
            exact ⟨second, _, _, rfl⟩
          rw [heq, htop'] at htop
          exact absurd (congrArg Frame.symbol (List.cons.inj htop).1) (by simp)
        have hlayout := hlayout (u ++ r) (hu r hr)
        rw [List.append_assoc, Stack.run_layout hlayout hearly, hsign, List.cons_append,
          Stack.run_blank before (by decide), List.append_assoc]
        exact Stack.run_refused (Lexeme.stands_sign (List.contains_iff_mem.mp hsigns) _) hident
          hexpects hrefused

/-- The same with the left side. -/
theorem ReadsAll.clash {op op' : Operator} {lead lead' isOpen' : Bool} {l r : Text}
    {ol or : Option (Symbol.n side).Value} {value : (Symbol.n sign).Value}
    (hlone : (sign, side) ∈ Nonterminal.lone) (hk : k ∈ sign.first)
    (hl : Reads (.n side) Closes lead isOpen l ol)
    (hs : Reads (.n sign) (fun _ => True) false false op.joint (some value))
    (hr : Reads (.n side) Closes lead' isOpen' r or) (hop : op.precedence ≠ 0)
    (hop' : op'.precedence ≠ 0)
    (hsign : op'.joint = .scalar ' ' :: ((Lexeme.of k).text ++ [.scalar ' '])) (v : Text) :
    ReadsAll [.n side, .n sign, .n side] lead isOpen' (l ++ (op.joint ++ r ++ (op'.joint ++ v)))
      none := by
  have hfacts : Nonterminal.lone.all (fun p => p.1 != .start && p.2 != .start && p.2 != .pipe &&
      !p.1.first.contains .kwCatch) = true := by decide
  have hfact := List.all_eq_true.mp hfacts _ hlone
  simp only [Bool.and_eq_true, bne_iff_ne, Bool.not_eq_true'] at hfact
  obtain ⟨⟨⟨hsignStart, hsideStart⟩, hpipe⟩, hcatch⟩ := hfact
  have hside := ReadsRest.cons hr .nil (by simpa using hsideStart) (fun _ ht => ht)
    (fun hmem => absurd hmem List.not_mem_nil) (fun _ => ⟨side, rfl, hpipe⟩)
  have hsides := ReadsRest.cons hs hside (by simpa using hsignStart) (fun _ _ => trivial)
    (fun _ => rfl) (by simp)
  rw [List.append_nil] at hsides
  have hrest := hsides.clash hlone hk (u := op'.joint ++ v) (v := v)
    (fun t _ => by rw [List.append_assoc]; exact Operator.closes_joint hop' _)
    (by rw [hsign, List.cons_append, List.append_assoc]; rfl)
  have hcloses (t : Text) : Closes (op.joint ++ r ++ (op'.joint ++ v) ++ t) := by
    simp only [List.append_assoc]
    exact Operator.closes_joint hop _
  have hall := ReadsAll.cons hl hrest (by simpa using hsideStart) (fun t _ => hcloses t) fun hmem => by
    rw [← List.contains_iff_mem] at hmem
    exact absurd (hmem.symm.trans hcatch) (by simp)
  cases ol <;> exact hall

end Lone

theorem Operator.exists_cmpSign {op : Operator} (h : op.isComparison = true) :
    ∃ k ∈ Nonterminal.cmpSym.first,
      op.joint = .scalar ' ' :: ((Lexeme.of k).text ++ [.scalar ' ']) := by
  cases op <;> first
    | exact absurd h Bool.false_ne_true
    | exact ⟨.equalEqual, by decide, rfl⟩
    | exact ⟨.bangEqual, by decide, rfl⟩
    | exact ⟨.less, by decide, rfl⟩
    | exact ⟨.lessEqual, by decide, rfl⟩
    | exact ⟨.greater, by decide, rfl⟩
    | exact ⟨.greaterEqual, by decide, rfl⟩

theorem Operator.exists_assignSign {op : Operator} (h : op.isAssignment = true) :
    ∃ k ∈ Nonterminal.assignSym.first,
      op.joint = .scalar ' ' :: ((Lexeme.of k).text ++ [.scalar ' ']) := by
  cases op <;> first
    | exact absurd h Bool.false_ne_true
    | exact ⟨.equal, by decide, rfl⟩
    | exact ⟨.barEqual, by decide, rfl⟩
    | exact ⟨.plusEqual, by decide, rfl⟩
    | exact ⟨.minusEqual, by decide, rfl⟩
    | exact ⟨.starEqual, by decide, rfl⟩
    | exact ⟨.slashEqual, by decide, rfl⟩
    | exact ⟨.percentEqual, by decide, rfl⟩
    | exact ⟨.slashSlashEqual, by decide, rfl⟩

theorem Operator.isComparison_iff {op : Operator} :
    op.isComparison = true ↔ op.precedence = 7 := by
  cases op <;> simp [isComparison, precedence]

theorem Operator.isAssignment_iff {op : Operator} :
    op.isAssignment = true ↔ op.precedence = 4 := by
  cases op <;> simp [isAssignment, precedence]

/-- After an operator that groups to no side and its sides, another of its level is refused. -/
theorem reads_clash {op op' : Operator} (hop : op.isLone = true)
    (hlevel : op'.precedence = op.precedence) {lead lead' isOpen isOpen' : Bool} {l r : Text}
    {ol or : Option Query} (hl : ReadsAt (op.sideLevel true) lead isOpen l ol)
    (hr : ReadsAt (op.sideLevel false) lead' isOpen' r or) (v : Text) :
    ReadsAt op.level lead isOpen' (l ++ (op.joint ++ r ++ (op'.joint ++ v))) none := by
  have hne : op.precedence ≠ 0 := by
    simp only [Operator.isLone, Bool.or_eq_true, Operator.isComparison_iff,
      Operator.isAssignment_iff] at hop
    omega
  have hne' : op'.precedence ≠ 0 := hlevel ▸ hne
  simp only [Operator.isLone, Bool.or_eq_true] at hop
  rcases hop with hop | hop
  · obtain ⟨k, hk, hjoint⟩ : ∃ k ∈ Nonterminal.cmpSym.first,
        op'.joint = .scalar ' ' :: ((Lexeme.of k).text ++ [.scalar ' ']) := by
      refine Operator.exists_cmpSign (Operator.isComparison_iff.mpr ?_)
      rw [hlevel, Operator.isComparison_iff.mp hop]
    obtain ⟨hlevel, hside⟩ : op.level = 7 ∧ ∀ b, op.sideLevel b = 6 := by
      simp [Operator.level, Operator.sideLevel, Operator.isLone, hop,
        Operator.isComparison_iff.mp hop]
    rw [hside] at hl hr
    rw [hlevel]
    exact Reads.node .compareOp (.clash (by decide) hk hl (reads_cmpSym hop) hr hne hne' hjoint v)
      rfl (.inl (by decide))
  · obtain ⟨k, hk, hjoint⟩ : ∃ k ∈ Nonterminal.assignSym.first,
        op'.joint = .scalar ' ' :: ((Lexeme.of k).text ++ [.scalar ' ']) := by
      refine Operator.exists_assignSign (Operator.isAssignment_iff.mpr ?_)
      rw [hlevel, Operator.isAssignment_iff.mp hop]
    obtain ⟨hlevel, hside⟩ : op.level = 10 ∧ ∀ b, op.sideLevel b = 9 := by
      simp [Operator.level, Operator.sideLevel, Operator.isLone, hop,
        Operator.isAssignment_iff.mp hop]
    rw [hside] at hl hr
    rw [hlevel]
    exact Reads.node .assignOp (.clash (by decide) hk hl (reads_assignSym hop) hr hne hne' hjoint v)
      rfl (.inl (by decide))

end JqFlow
