import JqFlow.Proofs.Reading.Names
import JqFlow.Proofs.Reading.StringLiteral

/-!
# Texts that are read as phrases

A text is read as a symbol of the grammar if it is a layout of a derivation of the symbol, and then it
has the meaning of the derivation. It is refused if no run can get over it. Both are put together from
the parts of the text as a production is from its symbols.

## Main definitions

- `Text.Closes`: a text that can come after a phrase
- `Reads`: the text is read as a symbol with a meaning, or refused if the meaning is absent
- `ReadsAll`, `ReadsRest`: the same for the symbols of a production, and for those after the first

## Main statements

- `ReadsRest.cons`, `ReadsAll.cons`, `Reads.node`: the parts of a text
- `parse_of_reads`: what comes of a text that is read as a pipe, or refused as one
-/

namespace JqFlow

open Automaton (State leads apart target)
open Stack (Settles)

namespace Text

/-- The code points that close the phrase before them, or go on with a suffix of it. -/
def closers : List CodePoint :=
  [.scalar ' ', .scalar ',', .scalar ')', .scalar ']', .scalar ':', .scalar ';', .scalar '\x7d',
    .scalar '[']

/-- May the second code point of a text that closes a phrase be this one, if the first is a blank? It
begins neither white space nor a variable. -/
def followsBlank (c : CodePoint) : Bool :=
  !Spelling.isBlank c && c != .scalar '$' && c != .scalar '#'

/-- A text that can come after a phrase: it is empty, or it begins with a closing code point. -/
def Closes : Text → Prop
  | [] => True
  | c :: rest => c ∈ closers ∧ (c = .scalar ':' → rest.head? ≠ some (.scalar ':')) ∧
      (c = .scalar ' ' → ∃ d, rest.head? = some d ∧ followsBlank d = true)

theorem Closes.breaks {t : Text} (h : t.Closes) : t.Breaks := by
  cases t with
  | nil => trivial
  | cons c rest =>
    have hsub : closers.all breakers.contains = true := by decide
    exact ⟨List.contains_iff_mem.mp (List.all_eq_true.mp hsub c h.1), h.2.1⟩

end Text

open Text (Closes)

/-- A derivation that every run can read. Unless `lead`, it does not begin with a function name
`label`; unless `isOpen`, it does not end with a `try` that has no `catch`. -/
structure Derivation.Fit {s : Symbol} (d : Derivation s) (lead isOpen : Bool) : Prop where
  nearest : d.Nearest
  worded : d.Worded
  leads : d.leads = true → lead = true
  endsOpen : d.endsOpen = true → isOpen = true

/-- The text `t` is read as a symbol with the given meaning before the texts in `before`, or no run
that comes to where the symbol may begin gets over it. -/
def Reads (s : Symbol) (before : Text → Prop) (lead isOpen : Bool) (t : Text) :
    Option s.Value → Prop
  | some v => ∃ d : Derivation s, d.eval = v ∧ d.Fit lead isOpen ∧
      ∀ r, before r → Layout (t ++ r) d.yield r
  | none => ∃ l : Lexeme, l.terminal ∈ s.first ∧ ∀ early stack next, Settles l early stack →
      stack.row.next? s = some next → (lead = true → stack.row.gotos.lookup .pipe = none) →
        ∀ r, before r → early.run (t ++ r) = none

/-- The same for the symbols of a production. -/
def ReadsAll (ss : List Symbol) (lead isOpen : Bool) (t : Text) :
    Option (Symbol.Values ss) → Prop
  | some vs => ∃ f : Forest ss, f.eval = vs ∧ f.Nearest ∧ f.Worded false ∧
      (f.yield.head?.any Lexeme.isLabel = true → lead = true) ∧
      (f.endsOpen = true → isOpen = true) ∧ ∀ r, Closes r → Layout (t ++ r) f.yield r
  | none => ∃ l : Lexeme, l.terminal ∈ Symbol.heads [] ss ∧ ∀ early stack after,
      Settles l early stack → leads after stack.state ss = true →
        apart (target stack.state (ss.take 1)) ss.tail = true →
          (lead = true → stack.row.gotos.lookup .pipe = none) →
            ∀ r, Closes r → early.run (t ++ r) = none

/-- The same for the symbols of a production after the first. -/
def ReadsRest (ss : List Symbol) (isOpen : Bool) (t : Text) : Option (Symbol.Values ss) → Prop
  | some vs => ∃ f : Forest ss, f.eval = vs ∧ f.Nearest ∧ f.Worded false ∧
      (f.endsOpen = true → isOpen = true) ∧ ∀ r, Closes r → Layout (t ++ r) f.yield r
  | none => ∃ l : Lexeme, l.terminal ∈ Symbol.heads [] ss ∧ ∀ early stack after,
      Settles l early stack → leads after stack.state ss = true → apart stack.state ss = true →
        ∀ r, Closes r → early.run (t ++ r) = none

/-- Does the last of several symbols end with a `try` that has no `catch`, if the first ends so as
`first` says and the others as `rest` says? -/
def lastOpen (ss : List Symbol) (first rest : Bool) : Bool :=
  match ss with
  | [] => first
  | _ :: _ => rest

/-- The meanings of the first of several symbols and of the rest. -/
def both {α β : Type} (o : Option α) (os : Option β) : Option (α × β) :=
  o.bind fun v => os.map fun vs => (v, vs)

theorem ReadsRest.nil : ReadsRest [] false [] (some ()) :=
  ⟨.nil, rfl, trivial, trivial, id, fun r _ => .nil r⟩

section Cons

variable {s : Symbol} {ss : List Symbol} {before : Text → Prop} {lead isOpen isOpen' : Bool}
  {t t' : Text}

/-- Two parts that are read are read one after the other. -/
theorem forest_cons {v : s.Value} {vs : Symbol.Values ss} (first : Reads s before lead isOpen t v)
    (rest : ReadsRest ss isOpen' t' vs) (hbefore : ∀ r, Closes r → before (t' ++ r))
    (hcatch : .kwCatch ∈ Symbol.heads [] ss → isOpen = false) :
    ∃ f : Forest (s :: ss), f.eval = (v, vs) ∧ f.Nearest ∧ f.Worded false ∧
      (f.yield.head?.any Lexeme.isLabel = true → lead = true) ∧
      (f.endsOpen = true → lastOpen ss isOpen isOpen' = true) ∧
      ∀ r, Closes r → Layout (t ++ t' ++ r) f.yield r := by
  obtain ⟨d, rfl, hd, hlayout⟩ := first
  obtain ⟨f, rfl, hnearest, hworded, hopen, hlayout'⟩ := rest
  refine ⟨.cons d f, rfl, ⟨hd.nearest, ?_, hnearest⟩, ⟨.inr hd.worded, hworded⟩, ?_, ?_, ?_⟩
  · intro hends hmem
    have := hd.endsOpen hends
    rw [hcatch hmem] at this
    exact absurd this (by simp)
  · rw [Forest.head_yield_cons]
    exact hd.leads
  · cases f with
    | nil => exact hd.endsOpen
    | cons second rest => exact hopen
  · intro r hr
    rw [List.append_assoc, Forest.yield]
    exact (hlayout _ (hbefore r hr)).append (hlayout' r hr)

/-- A part that is read before a part that is refused. -/
theorem run_cons_none {v : s.Value} (first : Reads s before lead isOpen t (some v))
    (rest : ReadsRest ss isOpen' t' none) (hs : s ≠ .n .start)
    (hbefore : ∀ r, Closes r → before (t' ++ r))
    (hcatch : .kwCatch ∈ Symbol.heads [] ss → isOpen = false) :
    ∃ l : Lexeme, l.terminal ∈ s.first ∧ ∀ early stack after, Settles l early stack →
      leads after stack.state (s :: ss) = true → apart (target stack.state [s]) ss = true →
        (lead = true → stack.row.gotos.lookup .pipe = none) →
          ∀ r, Closes r → early.run (t ++ t' ++ r) = none := by
  obtain ⟨d, rfl, hd, hlayout⟩ := first
  obtain ⟨l', hl', hrest⟩ := rest
  obtain ⟨l, w, hyield, hl⟩ := d.first_yield
  refine ⟨l, hl, ?_⟩
  intro early stack after hsettles hleads hapart hlead r hr
  rw [leads] at hleads
  cases hnext : (Automaton.row stack.state).next? s with
  | none => simp [hnext] at hleads
  | some next =>
    simp only [hnext, Bool.and_eq_true] at hleads
    have hheads : l'.terminal ∈ Symbol.heads after ss := by
      cases ss with
      | nil => exact absurd hl' List.not_mem_nil
      | cons s' ss => exact hl'
    have hopen (h : d.endsOpen = true) : l'.terminal ≠ .kwCatch := by
      intro hl'catch
      have := hd.endsOpen h
      rw [hcatch (hl'catch ▸ hl')] at this
      exact absurd this (by simp)
    obtain ⟨before', hread, hsettles'⟩ := d.read_yield hs hd.nearest hnext
      (d.seen hd.worded hnext fun h => hlead (hd.leads h))
      (Automaton.precedes_of_mem hleads.1 hheads) hopen
    have hearly : early.read d.yield = some before' := by
      rw [hyield, hsettles.read w, ← hyield, hread]
    have htarget : target stack.state [s] = next := by simp [target, hnext]
    rw [List.append_assoc, Stack.run_layout (hlayout _ (hbefore r hr)) hearly]
    exact hrest before' _ after hsettles' hleads.2 (htarget ▸ hapart) r hr

/-- A part that is refused. -/
theorem run_cons_refused (ss : List Symbol) (first : Reads s before lead isOpen t none)
    (hbefore : ∀ r, Closes r → before (t' ++ r)) :
    ∃ l : Lexeme, l.terminal ∈ s.first ∧ ∀ early stack after, Settles l early stack →
      leads after stack.state (s :: ss) = true →
        (lead = true → stack.row.gotos.lookup .pipe = none) →
          ∀ r, Closes r → early.run (t ++ t' ++ r) = none := by
  obtain ⟨l, hl, hfirst⟩ := first
  refine ⟨l, hl, ?_⟩
  intro early stack after hsettles hleads hlead r hr
  rw [leads] at hleads
  cases hnext : (Automaton.row stack.state).next? s with
  | none => simp [hnext] at hleads
  | some next =>
    rw [List.append_assoc]
    exact hfirst early stack next hsettles hnext hlead _ (hbefore r hr)

variable {o : Option s.Value} {os : Option (Symbol.Values ss)}

/-- The symbols of a production, part by part. -/
theorem ReadsAll.cons (first : Reads s before lead isOpen t o) (rest : ReadsRest ss isOpen' t' os)
    (hs : s ≠ .n .start) (hbefore : ∀ r, Closes r → before (t' ++ r))
    (hcatch : .kwCatch ∈ Symbol.heads [] ss → isOpen = false) :
    ReadsAll (s :: ss) lead (lastOpen ss isOpen isOpen') (t ++ t') (both o os) := by
  cases o with
  | none =>
    obtain ⟨l, hl, hrun⟩ := run_cons_refused ss first hbefore
    exact ⟨l, hl, fun early stack after hsettles hleads _ => hrun early stack after hsettles hleads⟩
  | some v =>
    cases os with
    | none => exact run_cons_none first rest hs hbefore hcatch
    | some vs => exact forest_cons first rest hbefore hcatch

/-- The symbols of a production after the first, part by part. Where a pipe can begin, no name
`label` may come first. -/
theorem ReadsRest.cons (first : Reads s before lead isOpen t o) (rest : ReadsRest ss isOpen' t' os)
    (hs : s ≠ .n .start) (hbefore : ∀ r, Closes r → before (t' ++ r))
    (hcatch : .kwCatch ∈ Symbol.heads [] ss → isOpen = false)
    (hlead : lead = true → ∃ x, s = .n x ∧ x ≠ .pipe) :
    ReadsRest (s :: ss) (lastOpen ss isOpen isOpen') (t ++ t') (both o os) := by
  have hnone (stack : Stack) (hapart : apart stack.state (s :: ss) = true) :
      apart (target stack.state [s]) ss = true ∧
        (lead = true → stack.row.gotos.lookup .pipe = none) := by
    refine ⟨by cases s <;> simp_all [apart, target], ?_⟩
    intro h
    obtain ⟨x, rfl, hx⟩ := hlead h
    simp only [apart, Bool.and_eq_true, Bool.or_eq_true, decide_eq_true_eq] at hapart
    exact hapart.1.resolve_left hx
  cases o with
  | none =>
    obtain ⟨l, hl, hrun⟩ := run_cons_refused ss first hbefore
    exact ⟨l, hl, fun early stack after hsettles hleads hapart =>
      hrun early stack after hsettles hleads (hnone stack hapart).2⟩
  | some v =>
    cases os with
    | none =>
      obtain ⟨l, hl, hrun⟩ := run_cons_none first rest hs hbefore hcatch
      exact ⟨l, hl, fun early stack after hsettles hleads hapart =>
        hrun early stack after hsettles hleads (hnone stack hapart).1 (hnone stack hapart).2⟩
    | some vs =>
      obtain ⟨f, heval, hnearest, hworded, -, hopen, hlayout⟩ :=
        forest_cons first rest hbefore hcatch
      exact ⟨f, heval, hnearest, hworded, hopen, hlayout⟩

end Cons

/-- A production is read where its symbols are. -/
theorem Reads.node (p : Production) {lead isOpen : Bool} {t : Text}
    {o : Option (Symbol.Values p.rhs)} (h : ReadsAll p.rhs lead isOpen t o)
    (hkey : p.namesKey = false) (hpipe : p.lhs ≠ .pipe ∨ lead = false) :
    Reads (.n p.lhs) Closes lead (p = .attempt || isOpen) t (o.map p.action) := by
  cases o with
  | none =>
    obtain ⟨l, hl, hrun⟩ := h
    refine ⟨l, p.first_of_heads hl, ?_⟩
    intro early stack next hsettles hnext hlead r hr
    obtain ⟨hleads, -, hapart⟩ := Automaton.leads_of_goto hnext
    exact hrun early stack _ hsettles hleads hapart hlead r hr
  | some vs =>
    obtain ⟨f, rfl, hnearest, hworded, hlead, hopen, hlayout⟩ := h
    refine ⟨.node p f, rfl, ⟨hnearest, ⟨?_, ?_⟩, hlead, ?_⟩, hlayout⟩
    · rw [hkey]
      exact hworded
    · intro hp
      by_contra hnot
      have := hlead (by simpa using hnot)
      rw [hpipe.resolve_left fun hne => hne hp] at this
      exact absurd this (by simp)
    · intro hends
      simp only [Derivation.endsOpen, Bool.or_eq_true] at hends ⊢
      exact hends.imp id hopen

/-! ### Words and blanks -/

theorem Reads.mono {s : Symbol} {before : Text → Prop} {lead lead' isOpen isOpen' : Bool} {t : Text}
    {o : Option s.Value} (h : Reads s before lead isOpen t o) (hlead : lead = true → lead' = true)
    (hopen : isOpen = true → isOpen' = true) : Reads s before lead' isOpen' t o := by
  cases o with
  | none =>
    obtain ⟨l, hl, hrun⟩ := h
    exact ⟨l, hl, fun early stack next hsettles hnext hgoto =>
      hrun early stack next hsettles hnext fun h => hgoto (hlead h)⟩
  | some v =>
    obtain ⟨d, heval, hd, hlayout⟩ := h
    exact ⟨d, heval, ⟨hd.nearest, hd.worded, fun h => hlead (hd.leads h),
      fun h => hopen (hd.endsOpen h)⟩, hlayout⟩

theorem Reads.leading {s : Symbol} {before : Text → Prop} {lead isOpen : Bool} {t : Text}
    {o : Option s.Value} (h : Reads s before lead isOpen t o) : Reads s before true isOpen t o :=
  h.mono (fun _ => rfl) id

/-- A phrase may stand after a blank. -/
theorem Reads.blank {s : Symbol} {before : Text → Prop} {lead isOpen : Bool} {t : Text}
    {o : Option s.Value} (h : Reads s before lead isOpen t o) :
    Reads s before lead isOpen (.scalar ' ' :: t) o := by
  cases o with
  | none =>
    obtain ⟨l, hl, hrun⟩ := h
    refine ⟨l, hl, ?_⟩
    intro early stack next hsettles hnext hlead r hr
    rw [List.cons_append, Stack.run_blank early (by decide)]
    exact hrun early stack next hsettles hnext hlead r hr
  | some v =>
    obtain ⟨d, heval, hd, hlayout⟩ := h
    exact ⟨d, heval, hd, fun r hr => .blank (by decide) (hlayout r hr)⟩

theorem ReadsRest.blank {ss : List Symbol} {isOpen : Bool} {t : Text}
    {os : Option (Symbol.Values ss)} (h : ReadsRest ss isOpen t os) :
    ReadsRest ss isOpen (.scalar ' ' :: t) os := by
  cases os with
  | none =>
    obtain ⟨l, hl, hrun⟩ := h
    refine ⟨l, hl, ?_⟩
    intro early stack after hsettles hleads hapart r hr
    rw [List.cons_append, Stack.run_blank early (by decide)]
    exact hrun early stack after hsettles hleads hapart r hr
  | some vs =>
    obtain ⟨f, heval, hnearest, hworded, hopen, hlayout⟩ := h
    exact ⟨f, heval, hnearest, hworded, hopen, fun r hr => .blank (by decide) (hlayout r hr)⟩

/-- What is refused is refused whatever comes after it. -/
theorem Reads.append_none {s : Symbol} {lead isOpen : Bool} {t u : Text}
    (h : Reads s Closes lead isOpen t none) (hu : ∀ r, Closes r → Closes (u ++ r)) :
    Reads s Closes lead isOpen (t ++ u) none := by
  obtain ⟨l, hl, hrun⟩ := h
  refine ⟨l, hl, ?_⟩
  intro early stack next hsettles hnext hlead r hr
  rw [List.append_assoc]
  exact hrun early stack next hsettles hnext hlead (u ++ r) (hu r hr)

/-- A token is read where it stands. -/
theorem reads_word {l : Lexeme} {before : Text → Prop} (hl : ∀ r, before r → l.Stands r)
    (hbarred : l.terminal = .ident → l.text ∉ barred) :
    Reads (.t l.terminal) before l.isLabel false l.text (some l.text) := by
  refine ⟨.leaf l.terminal l.text, rfl, ⟨trivial, hbarred, ?_, by simp [Derivation.endsOpen]⟩, ?_⟩
  · simp [Derivation.leads, Derivation.yield]
  · exact fun r hr => .word (hl r hr) (.nil r)

section Parts

variable {ss : List Symbol} {isOpen : Bool} {t : Text} {os : Option (Symbol.Values ss)}

/-- A token before the other symbols of a production. -/
theorem ReadsRest.word {l : Lexeme} (rest : ReadsRest ss isOpen t os)
    (hl : ∀ r, Closes r → l.Stands (t ++ r)) (hident : l.terminal ≠ .ident) :
    ReadsRest (.t l.terminal :: ss) (lastOpen ss false isOpen) (l.text ++ t)
      (both (some l.text) os) := by
  have hlabel : l.isLabel = false := by simp [Lexeme.isLabel, hident]
  have hstands (r : Text) (hr : ∃ r', Closes r' ∧ r = t ++ r') : l.Stands r := by
    obtain ⟨r', hr', rfl⟩ := hr
    exact hl r' hr'
  have hword := reads_word hstands fun h => absurd h hident
  rw [hlabel] at hword
  exact .cons hword rest (by simp) (fun r hr => ⟨r, hr, rfl⟩) (fun _ => rfl) (by simp)

/-- The first token of a production. -/
theorem ReadsAll.word {l : Lexeme} (rest : ReadsRest ss isOpen t os)
    (hl : ∀ r, Closes r → l.Stands (t ++ r))
    (hbarred : l.terminal = .ident → l.text ∉ barred) :
    ReadsAll (.t l.terminal :: ss) l.isLabel (lastOpen ss false isOpen) (l.text ++ t)
      (both (some l.text) os) := by
  have hstands (r : Text) (hr : ∃ r', Closes r' ∧ r = t ++ r') : l.Stands r := by
    obtain ⟨r', hr', rfl⟩ := hr
    exact hl r' hr'
  have hword := reads_word hstands hbarred
  exact .cons hword rest (by simp) (fun r hr => ⟨r, hr, rfl⟩) (fun _ => rfl)

end Parts

/-! ### Whole queries -/

/-- A text that is read as a pipe is a query text, and its query is the meaning of the pipe; a text
that is refused as a pipe is none. -/
theorem parse_of_reads {isOpen : Bool} {t : Text} {o : Option Query}
    (h : Reads (.n .pipe) Closes false isOpen t o) : (Query.parse t).toOption = o := by
  have hnext : (Stack.row []).next? (.n .pipe) = some 2 := by
    show (Automaton.row 0).gotos.lookup .pipe = some 2
    decide +kernel
  cases o with
  | none =>
    cases hblank : t.isBlank with
    | true =>
      rw [Query.parse, if_pos hblank]
      rfl
    | false =>
      obtain ⟨l, -, hrun⟩ := h
      have hnone := hrun [] [] 2 (.refl _) hnext (by simp) [] trivial
      rw [List.append_nil] at hnone
      rw [Query.parse_eq_run t hblank, hnone]
      rfl
  | some q =>
    obtain ⟨d, rfl, hd, hlayout⟩ := h
    have hlayout := hlayout [] trivial
    rw [List.append_nil] at hlayout
    have hblank := hlayout.isBlank_eq_false (by
      obtain ⟨l, w, hyield, -⟩ := d.first_yield
      simp [hyield])
    have hseen : d.Seen 0 := d.seen hd.worded hnext fun h => absurd (hd.leads h) (by simp)
    obtain ⟨before, hread, -, hfeed⟩ := Stack.feed_yield_end d hd.nearest hseen
    have hend : before.run [] = some (.node .start (.cons d .nil)) := by
      rw [Stack.run_eq, nextWord_nil]
      simp only [hfeed, Fed.accepted?]
    rw [Query.parse_eq_run t hblank, Stack.run_layout hlayout hread, hend]
    rfl

end JqFlow
