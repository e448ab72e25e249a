import JqFlow.Proofs.Reading.Names
import JqFlow.Proofs.Reading.Spelled

/-!
# What is read is derived properly

The derivation that a run ends with is one that a run can be led to: its tokens are spelled right, its
names are names and each `catch` in it belongs to the nearest `try`. All of this is kept by the stack
from token to token.

## Main definitions

- `Derivation.Spelled`: every token of a derivation is spelled right
- `Frame.Sound`, `Stack.Sound`: what a stack keeps

## Main statements

- `Stack.feedWithin_sound`: what one terminal keeps
- `derive_sound`: what a whole run keeps
-/

namespace JqFlow

open Automaton (State)

mutual

/-- Is every token of a derivation spelled right? -/
def Derivation.Spelled {s : Symbol} : Derivation s → Prop
  | .leaf x text => Lexeme.Spelled ⟨x, text⟩
  | .node _ children => children.Spelled

/-- The same for several derivations. -/
def Forest.Spelled {ss : List Symbol} : Forest ss → Prop
  | .nil => True
  | .cons first rest => first.Spelled ∧ rest.Spelled

end

/-- Is this a derivation that a run can come to? -/
structure Derivation.Sound {s : Symbol} (d : Derivation s) : Prop where
  spelled : d.Spelled
  nearest : d.Nearest
  worded : d.Worded

/-! ### What the table guarantees -/

namespace Automaton

/-- Do names and keywords come where they should? Where a pipe begins, `label` is a keyword; a name
is the key of an entry, or the keywords that begin terms are expected with it; no term begins where an
entry does; and a body is not finished before a `catch`. -/
def Row.keepsWords (r : Row) : Bool :=
  ((r.gotos.lookup .pipe).isNone || r.expects .kwLabel) &&
    ((r.shifts.lookup .ident).isNone || (r.gotos.lookup .entry).isSome ||
      Terminal.termKeywords.all fun k => r.expects k) &&
    ((r.gotos.lookup .entry).isNone || (r.gotos.lookup .primary).isNone) &&
    (r.finish? .kwCatch ≠ some .attempt || (r.shifts.lookup .kwCatch).isSome)

theorem keepsWords_iff {r : Row} : r.keepsWords = true ↔
    (r.gotos.lookup .pipe = none ∨ r.expects .kwLabel = true) ∧
      (r.shifts.lookup .ident = none ∨ (r.gotos.lookup .entry).isSome = true ∨
        (Terminal.termKeywords.all fun k => r.expects k) = true) ∧
      (r.gotos.lookup .entry = none ∨ r.gotos.lookup .primary = none) ∧
      (r.finish? .kwCatch = some .attempt → (r.shifts.lookup .kwCatch).isSome = true) := by
  simp only [Row.keepsWords, Bool.and_eq_true, Bool.or_eq_true, Option.isNone_iff_eq_none,
    decide_eq_true_eq, or_assoc, and_assoc, ne_eq, ← imp_iff_not_or]

theorem keepsWords_of_mem {r : Row} (h : r ∈ rows.toList) : r.keepsWords = true := by
  have hall : rows.toList.all Row.keepsWords = true := by
    decide +kernel
  exact List.all_eq_true.mp hall r h

end Automaton

/-! ### What a stack keeps -/

/-- Does what was read last end with a `try` that has no `catch`? -/
def Stack.endsOpen : Stack → Bool
  | [] => false
  | f :: _ => f.derivation.endsOpen

/-- What is kept of a frame with what has been read before it. -/
structure Frame.Sound (f : Frame) (below : Stack) : Prop where
  spelled : f.derivation.Spelled
  nearest : f.derivation.Nearest
  worded : f.derivation.Worded ∨
    f.symbol = .t .ident ∧ (below.row.gotos.lookup .entry).isSome = true
  leads : f.derivation.leads = true → below.row.gotos.lookup .pipe = none
  catches : below.endsOpen = true → .kwCatch ∉ f.symbol.first

/-- Is every frame of a stack sound? -/
def Stack.Sound : Stack → Prop
  | [] => True
  | f :: below => f.Sound below ∧ Sound below

theorem Stack.Sound.of_append {above below : Stack} (h : Sound (above ++ below)) : Sound below := by
  induction above with
  | nil => exact h
  | cons f above ih => exact ih h.2

/-- What is kept of several frames is kept of the derivations in them. -/
theorem Stack.Sound.forest {ss : List Symbol} {fs : List Frame} {below : Stack} {children : Forest ss}
    (hframes : Forest.ofFrames? ss fs = some children) (h : Sound (fs.reverse ++ below)) :
    children.Spelled ∧ children.Nearest ∧
      (children.yield.head?.any Lexeme.isLabel = true → below.row.gotos.lookup .pipe = none) ∧
      (∀ key, .t .ident ∉ ss.tail → (ss.head? = some (.t .ident) → key = true ∨
        below.row.gotos.lookup .entry = none) → children.Worded key) ∧
      (ss ≠ [] → children.endsOpen = endsOpen (fs.reverse ++ below)) := by
  induction ss generalizing fs below with
  | nil =>
    cases fs with
    | nil =>
      obtain rfl := Option.some.inj hframes
      exact ⟨trivial, trivial, fun h => absurd h Bool.false_ne_true, fun _ _ _ => trivial,
        fun h => absurd rfl h⟩
    | cons => exact absurd hframes (by simp [Forest.ofFrames?])
  | cons s ss ih =>
    cases fs with
    | nil => exact absurd hframes (by simp [Forest.ofFrames?])
    | cons f fs =>
      obtain ⟨symbol, d, state⟩ := f
      rw [Forest.ofFrames?] at hframes
      split at hframes
      · next hsymbol =>
        obtain ⟨rest, hrest, rfl⟩ := Option.map_eq_some_iff.mp hframes
        dsimp only at hsymbol
        subst hsymbol
        rw [List.reverse_cons, List.append_assoc] at h ⊢
        obtain ⟨hspelled, hnearest, -, hworded, hopen⟩ := ih hrest h
        have hfirst := h.of_append.1
        refine ⟨⟨hfirst.spelled, hspelled⟩, ⟨hfirst.nearest, ?_, hnearest⟩, ?_, ?_, fun _ => ?_⟩
        · intro hends
          cases ss with
          | nil => exact List.not_mem_nil
          | cons s' ss =>
            -- The next frame was put where a `catch` would have been read first.
            cases fs with
            | nil => exact absurd hrest (by simp [Forest.ofFrames?])
            | cons f' fs =>
              have hsecond : f'.symbol = s' :=
                (List.cons.inj (Stack.symbols_of_ofFrames? hrest)).1
              rw [List.reverse_cons, List.append_assoc] at h
              rw [Symbol.heads, ← hsecond]
              exact h.of_append.1.catches hends
        · rw [Forest.head_yield_cons]
          exact hfirst.leads
        · intro key hident hkey
          refine ⟨?_, hworded false (fun h => hident (List.mem_of_mem_tail h)) fun h => ?_⟩
          · rcases hfirst.worded with hd | ⟨rfl, hentry⟩
            · exact .inr hd
            · refine .inl ((hkey rfl).resolve_right fun hnone => ?_)
              simp [hnone] at hentry
          · exact absurd (List.mem_of_head? h) hident
        · cases rest with
          | nil =>
            have hnil : fs = [] := List.map_eq_nil_iff.mp (Stack.symbols_of_ofFrames? hrest)
            rw [hnil]
            rfl
          | cons second rest => exact hopen (by simp)
      · exact absurd hframes (by simp)

/-! ### What one terminal keeps -/

theorem Production.head_ident (p : Production) (h : p.rhs.head? = some (.t .ident)) :
    p.namesKey = true ∨ p.lhs = .primary := by
  cases p <;> first
    | exact .inl rfl
    | exact .inr rfl
    | exact absurd h (by decide)

theorem Nonterminal.kwCatch_notMem_first (x : Nonterminal) : .kwCatch ∉ x.first := by
  cases x <;> decide

/-- A name that is taken for one is not barred where the keywords that begin terms are expected. -/
theorem notMem_barred {r : Automaton.Row} {text : Text}
    (hall : (Terminal.termKeywords.all fun k => r.expects k) = true)
    (hsees : r.sees ⟨.ident, text⟩ = true) : text ∉ barred := by
  intro hbarred
  have hexpects (k : Terminal) (hk : k ∈ Terminal.termKeywords) : r.expects k = true :=
    List.all_eq_true.mp hall k hk
  have hpromote : promote r.expects text = .ident := by
    simpa [Automaton.Row.sees] using hsees
  have hword : (barred.all fun word => (Terminal.keyword? word).any fun k =>
      Terminal.termKeywords.contains k && k != .ident) = true := by
    decide
  have hany := List.all_eq_true.mp hword text hbarred
  unfold promote at hpromote
  cases hk : Terminal.keyword? text with
  | none => simp [hk] at hany
  | some k =>
    simp only [hk, Option.any_some, Bool.and_eq_true, bne_iff_ne] at hany
    simp only [hk, hexpects k (List.contains_iff_mem.mp hany.1), if_true] at hpromote
    exact hany.2 hpromote

namespace Stack

variable {l : Lexeme} {stack after : Stack}

/-- A production that is finished keeps what the stack keeps. -/
theorem Sound.finish {p : Production} (h : stack.Sound) (hfinish : Finishes l.terminal p stack after)
    (hopen : stack.endsOpen = true → l.terminal ≠ .kwCatch) :
    after.Sound ∧ (after.endsOpen = true → l.terminal ≠ .kwCatch) := by
  have hrow : stack.row ∈ Automaton.rows.toList := Automaton.row_mem_of_due hfinish.due
  have hkeeps := Automaton.keepsWords_of_mem hrow
  obtain ⟨children, next, hframes, hnext, rfl⟩ := finish?_eq_some.mp hfinish.eq_after
  have hstack : (stack.take p.rhs.length).reverse.reverse ++ stack.drop p.rhs.length = stack := by
    rw [List.reverse_reverse, List.take_append_drop]
  have hsound := h
  rw [← hstack] at hsound
  obtain ⟨hspelled, hnearest, hleads, hworded, hends⟩ := hsound.forest hframes
  rw [hstack] at hends
  have hbelow := Automaton.keepsWords_of_mem (Automaton.row_mem_of_goto hnext)
  refine ⟨⟨⟨hspelled, hnearest, .inl ⟨?_, ?_⟩, hleads, ?_⟩, hsound.of_append⟩, ?_⟩
  · refine hworded p.namesKey p.ident_notMem_tail fun hhead => ?_
    refine (p.head_ident hhead).imp id fun hprimary => ?_
    rw [hprimary] at hnext
    have happart := (Automaton.keepsWords_iff.mp hbelow).2.2.1
    exact happart.resolve_right fun hnone => absurd (hnone.symm.trans hnext) (by simp)
  · intro hpipe
    rw [hpipe] at hnext
    by_contra hlead
    have hnone := hleads (by simpa using hlead)
    exact absurd (hnone.symm.trans hnext) (by simp)
  · exact fun _ => Nonterminal.kwCatch_notMem_first p.lhs
  · intro hends' hcatch
    have hnode : p = .attempt ∨ children.endsOpen = true := by
      simpa [endsOpen, Derivation.endsOpen] using hends'
    rcases hnode with rfl | hchildren
    · have hdue := hfinish.due
      have hunshifted := hfinish.unshifted
      rw [hcatch] at hdue hunshifted
      have hshifted := (Automaton.keepsWords_iff.mp hkeeps).2.2.2 hdue
      simp [hunshifted] at hshifted
    · exact hopen (hends p.rhs_ne_nil ▸ hchildren) hcatch

/-- A token that is read keeps what the stack keeps. -/
theorem Sound.shift {next : State} (h : stack.Sound) (hspelled : l.Spelled)
    (hsees : stack.row.sees l = true) (hopen : stack.endsOpen = true → l.terminal ≠ .kwCatch)
    (hnext : stack.row.shifts.lookup l.terminal = some next) :
    Sound (⟨.t l.terminal, .leaf l.terminal l.text, next⟩ :: stack) := by
  have hrow : stack.row ∈ Automaton.rows.toList := Automaton.row_mem_of_shift hnext
  obtain ⟨hlabel, hident, -, -⟩ := Automaton.keepsWords_iff.mp (Automaton.keepsWords_of_mem hrow)
  refine ⟨⟨hspelled, trivial, ?_, ?_, ?_⟩, h⟩
  · by_cases hterminal : l.terminal = .ident
    · have hsees' : stack.row.sees ⟨.ident, l.text⟩ = true := hterminal ▸ hsees
      rw [hterminal] at hnext
      rcases hident.resolve_left (by simp [hnext]) with hentry | hall
      · exact .inr ⟨by rw [hterminal], hentry⟩
      · exact .inl fun _ => notMem_barred hall hsees'
    · exact .inl fun h => absurd h hterminal
  · intro hleads
    have hisLabel : l.terminal = .ident ∧ l.text = "label" := by
      simpa [Derivation.leads, Derivation.yield, Lexeme.isLabel] using hleads
    refine hlabel.resolve_right fun hexpects => ?_
    have hpromote : promote stack.row.expects "label" = .ident := by
      simpa [Automaton.Row.sees, hisLabel] using hsees
    have hword : Terminal.keyword? "label" = some .kwLabel := by decide
    simp [promote, hword, hexpects] at hpromote
  · intro hends
    have hne := hopen hends
    simpa [Symbol.first] using fun h : Terminal.kwCatch = l.terminal => hne h.symm

theorem Sound.whole {d : QueryDerivation} (h : stack.Sound) (hwhole : whole? stack = some d) :
    d.Sound := by
  unfold whole? at hwhole
  split at hwhole
  · next derivation state =>
    obtain rfl := Option.some.inj hwhole
    have hframe := h.1
    exact ⟨hframe.spelled, hframe.nearest,
      hframe.worded.resolve_right fun hident => absurd hident.1 (by simp)⟩
  · exact absurd hwhole (by simp)

/-- One terminal keeps what the stack keeps, whatever comes of it. -/
theorem feedWithin_sound {n : Nat} (h : stack.Sound) (hspelled : l.Spelled)
    (hsees : stack.row.sees l = true) (hopen : stack.endsOpen = true → l.terminal ≠ .kwCatch) :
    (∀ after, feedWithin n l stack = .shifted after → after.Sound ∧ after.endsOpen = false) ∧
      ∀ d, feedWithin n l stack = .accepted d → d.Sound := by
  induction n generalizing stack with
  | zero =>
    rw [feedWithin]
    exact ⟨by simp, by simp⟩
  | succ n ih =>
    rw [feedWithin]
    cases hshift : stack.row.shifts.lookup l.terminal with
    | some next =>
      refine ⟨fun after hafter => ?_, (by simp)⟩
      obtain rfl := Fed.shifted.inj hafter
      exact ⟨h.shift hspelled hsees hopen hshift, rfl⟩
    | none =>
      cases hdue : stack.row.finish? l.terminal with
      | none => exact ⟨(by simp), (by simp)⟩
      | some p =>
        cases hfinish : finish? p stack with
        | none =>
          simp only [hfinish]
          exact ⟨(by simp), (by simp)⟩
        | some next =>
          have hfinishes : Finishes l.terminal p stack next := ⟨hshift, hdue, hfinish⟩
          obtain ⟨hnext, hopen'⟩ := h.finish hfinishes hopen
          have hrest := ih hnext (hfinishes.sees ▸ hsees) hopen'
          simp only [hfinish]
          cases hwhole : whole? next with
          | none => exact hrest
          | some d =>
            simp only
            split
            · refine ⟨(by simp), fun d' hd' => ?_⟩
              obtain rfl := Fed.accepted.inj hd'
              exact hnext.whole hwhole
            · exact hrest

end Stack

/-! ### What a run keeps -/

theorem deriveFrom_sound {source : Text} {n : Nat} {stack : Stack} {previous : Option Token}
    {c : Cursor} {d : QueryDerivation} (h : stack.Sound) (hopen : stack.endsOpen = false)
    (hd : deriveFrom source n stack previous c = .ok d) : d.Sound := by
  induction n generalizing stack previous c with
  | zero => exact absurd hd (by simp [deriveFrom])
  | succ n ih =>
    have hfeed {l : Lexeme} (hspelled : l.Spelled) (hsees : stack.row.sees l = true) :=
      Stack.feedWithin_sound (n := stack.finishBound) h hspelled hsees fun hends =>
        absurd (hopen.symm.trans hends) (by simp)
    rw [deriveFrom] at hd
    cases hnext : c.next stack.row.expects with
    | stuck place => simp [hnext] at hd
    | atEnd =>
      simp only [hnext] at hd
      split at hd
      · next heq =>
        obtain rfl := Except.ok.inj hd
        have hspelled : Lexeme.Spelled ⟨.endOfInput, []⟩ := trivial
        exact (hfeed hspelled (by simp [Automaton.Row.sees])).2 _ heq
      · exact absurd hd (by simp)
      · exact absurd hd (by simp)
    | token token after =>
      obtain ⟨t, hscan⟩ := Cursor.next_scanned hnext
      obtain ⟨hspelled, hname⟩ := scan?_spelled hscan
      have hsees : stack.row.sees token.lexeme = true := by
        by_cases hident : token.lexeme.terminal = .ident
        · simp [Automaton.Row.sees, hname hident]
        · simp [Automaton.Row.sees, hident]
      obtain ⟨hshifted, haccepted⟩ := hfeed hspelled hsees
      simp only [hnext] at hd
      split at hd
      · next stack' heq =>
        obtain ⟨hsound, hopen'⟩ := hshifted stack' heq
        exact ih hsound hopen' hd
      · next heq =>
        obtain rfl := Except.ok.inj hd
        exact haccepted _ heq
      · exact absurd hd (by simp)

/-- The derivation of a query text is one that a run can come to. -/
theorem derive_sound {t : Text} {d : QueryDerivation} (h : derive t = .ok d) : d.Sound := by
  have hempty : Stack.Sound [] := trivial
  exact deriveFrom_sound hempty rfl h

end JqFlow
