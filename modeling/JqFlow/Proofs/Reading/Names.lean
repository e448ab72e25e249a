import JqFlow.Proofs.Reading.Run

/-!
# Names that are taken for names

A name is taken for a name wherever a term can stand unless it is one of five keywords, which begin
terms. The keyword `label` begins a pipe, so a name `label` is taken for a name where no pipe begins.
The key of an entry may be any name.

## Main definitions

- `barred`: the names that no function can have
- `Derivation.leads`: does a derivation begin with a function name `label`?
- `Derivation.Worded`: no function has a name that is barred, and no pipe begins with `label`

## Main statements

- `Derivation.seen`: the tokens of such a derivation are taken for what they are
-/

namespace JqFlow

open Automaton (State leads apart target)

/-- The keywords that begin terms. -/
def Terminal.termKeywords : List Terminal :=
  [.kwIf, .kwTry, .kwReduce, .kwForeach, .kwBreak]

/-- The names that no function can have, since they begin terms of other kinds. -/
def barred : List Text :=
  ["if", "try", "reduce", "foreach", "break"]

/-- Is a token the name `label`? -/
def Lexeme.isLabel (l : Lexeme) : Bool :=
  l.terminal = .ident && l.text = "label"

/-- Does a derivation begin with a function name `label`? -/
def Derivation.leads {s : Symbol} (d : Derivation s) : Bool :=
  d.yield.head?.any Lexeme.isLabel

/-- Does a production derive an entry whose first token is its key as a name? -/
def Production.namesKey (p : Production) : Bool :=
  p = .entryName || p = .entryField

mutual

/-- Do no functions have names that are barred, and do no pipes begin with a name `label`? -/
def Derivation.Worded {s : Symbol} : Derivation s → Prop
  | .leaf x text => x = .ident → text ∉ barred
  | .node p children =>
    children.Worded p.namesKey ∧ (p.lhs = .pipe → children.yield.head?.any Lexeme.isLabel = false)

/-- The same for several derivations, the first of which may be a key. -/
def Forest.Worded (key : Bool) {ss : List Symbol} : Forest ss → Prop
  | .nil => True
  | .cons first rest => (key = true ∨ first.Worded) ∧ rest.Worded false

end

namespace Automaton

/-- Are names taken for names in a state, as far as they can be? -/
def Row.namesRight (r : Row) : Bool :=
  ((r.shifts.lookup .ident).isNone || Terminal.keywords.all fun k =>
    !r.expects k || Terminal.termKeywords.contains k ||
      (k = .kwLabel && (r.gotos.lookup .pipe).isSome)) &&
    ((r.gotos.lookup .entry).isNone || Terminal.keywords.all fun k => !r.expects k)

theorem namesRight_of_mem {r : Row} (h : r ∈ rows.toList) : r.namesRight = true := by
  have hall : rows.toList.all Row.namesRight = true := by
    decide +kernel
  exact List.all_eq_true.mp hall r h

/-- A name is taken for a name if it is not barred and does not stand as `label` where a pipe
begins. -/
theorem sees_name {state next : State} {text : Text}
    (h : (row state).shifts.lookup .ident = some next) (hbarred : text ∉ barred)
    (hlabel : text = "label" → (row state).gotos.lookup .pipe = none) :
    (row state).sees ⟨.ident, text⟩ = true := by
  have hnames := namesRight_of_mem (row_mem_of_shift h)
  simp only [Row.namesRight, h, Option.isNone_some, Bool.false_or, Bool.and_eq_true] at hnames
  have hpromote : promote (row state).expects text = .ident := by
    unfold promote
    cases hk : Terminal.keyword? text with
    | none => rfl
    | some k =>
      obtain ⟨hmemk, hliteral⟩ := Terminal.keyword?_eq_some hk
      have hright := List.all_eq_true.mp hnames.1 k hmemk
      simp only [Bool.or_eq_true, Bool.and_eq_true, Bool.not_eq_true', decide_eq_true_eq] at hright
      rcases hright with (hno | hterm) | ⟨rfl, hpipe⟩
      · simp [hno]
      · have hspelled : Terminal.termKeywords.all
            (fun k => k.literal?.all barred.contains) = true := by decide
        have := List.all_eq_true.mp hspelled k (List.contains_iff_mem.mp hterm)
        rw [hliteral] at this
        exact absurd (List.contains_iff_mem.mp this) hbarred
      · have hnone := hlabel (Option.some.inj hliteral).symm
        simp [hnone] at hpipe
  simp [Row.sees, hpromote]

/-- Any name is taken for a name where an entry begins. -/
theorem sees_key {state next : State} (h : (row state).gotos.lookup .entry = some next)
    (l : Lexeme) : (row state).sees l = true := by
  have hnames := namesRight_of_mem (row_mem_of_goto h)
  simp only [Row.namesRight, h, Option.isNone_some, Bool.false_or, Bool.and_eq_true] at hnames
  have hpromote : promote (row state).expects l.text = .ident := by
    unfold promote
    cases hk : Terminal.keyword? l.text with
    | none => rfl
    | some k =>
      have hno := List.all_eq_true.mp hnames.2 k (Terminal.keyword?_eq_some hk).1
      simp only [Bool.not_eq_true'] at hno
      simp [hno]
  simp [Row.sees, hpromote]

end Automaton

/-! ### The tokens of a derivation -/

theorem Production.key_of_namesKey {p : Production} (h : p.namesKey = true) :
    p.lhs = .entry ∧ p.rhs.head? = some (.t .ident) := by
  cases p <;> first
    | exact absurd h (by decide)
    | exact ⟨rfl, rfl⟩

theorem Production.ident_notMem_tail (p : Production) : Symbol.t .ident ∉ p.rhs.tail := by
  cases p <;> decide

/-- A derivation of a pipe does not begin with a name `label`. -/
theorem Derivation.leads_pipe {d : Derivation (.n .pipe)} (h : d.Worded) : d.leads = false := by
  generalize hs : Symbol.n .pipe = s at d
  cases d with
  | leaf => exact absurd hs (by simp)
  | node p children => exact h.2 (Symbol.n.inj hs).symm

/-- What a sequence of derivations begins with is what the first of them begins with. -/
theorem Forest.head_yield_cons {s : Symbol} {ss : List Symbol} (first : Derivation s)
    (rest : Forest ss) : (Forest.cons first rest).yield.head? = first.yield.head? := by
  obtain ⟨l, w, hyield, -⟩ := first.first_yield
  rw [Forest.yield, hyield]
  rfl

mutual

/-- The tokens of a derivation with proper names are taken for what they are. -/
theorem Derivation.seen {s : Symbol} (d : Derivation s) (hd : d.Worded) {state next : State}
    (hnext : (Automaton.row state).next? s = some next)
    (hlead : d.leads = true → (Automaton.row state).gotos.lookup .pipe = none) :
    d.Seen state := by
  match d with
  | .leaf x text =>
    by_cases hx : x = .ident
    · subst hx
      refine Automaton.sees_name hnext (hd rfl) ?_
      rintro rfl
      exact hlead (by decide)
    · simp [Derivation.Seen, Automaton.Row.sees, hx]
  | .node p children =>
    obtain ⟨hleads, -, hapart⟩ := Automaton.leads_of_goto hnext
    refine children.seen hd.1 ?_ hleads hapart p.ident_notMem_tail hlead
    intro hkey
    obtain ⟨hlhs, hhead⟩ := Production.key_of_namesKey hkey
    exact ⟨hhead, next, hlhs ▸ hnext⟩

theorem Forest.seen {ss : List Symbol} (f : Forest ss) {key : Bool} (hf : f.Worded key)
    {state : State} {after : List Terminal}
    (hkey : key = true → ss.head? = some (.t .ident) ∧
      ∃ next, (Automaton.row state).gotos.lookup .entry = some next)
    (hleads : leads after state ss = true)
    (hapart : apart (target state (ss.take 1)) ss.tail = true)
    (hident : Symbol.t .ident ∉ ss.tail)
    (hlead : f.yield.head?.any Lexeme.isLabel = true →
      (Automaton.row state).gotos.lookup .pipe = none) : f.Seen state := by
  match f with
  | .nil => trivial
  | @Forest.cons s ss first rest =>
    rw [leads] at hleads
    cases hnext : (Automaton.row state).next? s with
    | none => simp [hnext] at hleads
    | some next =>
      simp only [hnext, Bool.and_eq_true] at hleads
      rw [Forest.head_yield_cons] at hlead
      have hrest : rest.Seen next := by
        have htarget : target state [s] = next := by simp [target, hnext]
        refine rest.seen_rest hf.2 hleads.2 ?_ hident
        rw [← htarget]
        exact hapart
      refine ⟨?_, by rwa [hnext]⟩
      rcases hf.1 with hk | hfirst
      · -- The first of them is the key of an entry.
        obtain ⟨hs, next, hentry⟩ := hkey hk
        obtain rfl : s = .t .ident := Option.some.inj hs
        cases first with
        | leaf x text => exact Automaton.sees_key hentry _
      · exact first.seen hfirst hnext hlead

theorem Forest.seen_rest {ss : List Symbol} (f : Forest ss) (hf : f.Worded false)
    {state : State} {after : List Terminal} (hleads : leads after state ss = true)
    (hapart : apart state ss = true) (hident : Symbol.t .ident ∉ ss) : f.Seen state := by
  match f with
  | .nil => trivial
  | @Forest.cons s ss first rest =>
    rw [List.mem_cons, not_or] at hident
    rw [leads] at hleads
    cases hnext : (Automaton.row state).next? s with
    | none => simp [hnext] at hleads
    | some next =>
      simp only [hnext, Bool.and_eq_true] at hleads
      have hfirst : first.Worded := hf.1.resolve_left (by simp)
      have hrest : apart next ss = true := by
        cases s <;> simp_all [apart]
      have hlead (h : first.leads = true) :
          (Automaton.row state).gotos.lookup .pipe = none := by
        cases s with
        | t x =>
          cases first with
          | leaf x text =>
            have hx : x = .ident := by
              simp [Derivation.leads, Derivation.yield, Lexeme.isLabel] at h
              exact h.1
            exact absurd (congrArg Symbol.t hx.symm) hident.1
        | n x =>
          simp only [apart, Bool.and_eq_true, Bool.or_eq_true, decide_eq_true_eq] at hapart
          rcases hapart.1 with rfl | hnone
          · rw [Derivation.leads_pipe hfirst] at h
            exact absurd h (by simp)
          · exact hnone
      refine ⟨first.seen hfirst hnext hlead, ?_⟩
      rw [hnext]
      exact rest.seen_rest hf.2 hleads.2 hrest hident.2

end

end JqFlow
