import JqFlow.Proofs.Reading.Embedded

/-!
# Chains of suffixes

A chain of suffixes such as `.a[0]."b"[]` and its links as terms with pipes between them,
`.a | .[0] | ."b" | .[]`, are read as queries of the same accesses: the chain as pipes that lean to
the left, the terms as pipes that lean to the right. Any query may stand inside the brackets.

## Main definitions

- `Inner`: a query inside brackets, as it is written
- `Link`: a link of a chain
- `Link.term`, `Link.suffix`: its text at the beginning of a chain, and further on
- `Link.access`: the access that it stands for
- `Text.Writes`: a text is cut into the given tokens wherever a stack reads them

## Main statements

- `Link.exists_suffix`, `Link.exists_term`: the tokens of a link and what they derive
- `parse_suffixChain`, `parse_pipedLinks`: what the two texts are read as
-/

namespace JqFlow

open Stack (Cuts)

/-! ### Texts of tokens -/

/-- Wherever a stack reads the tokens `w`, the text is cut into them before another text, of which
`before` may ask something. -/
def Text.Writes (t : Text) (w : List Lexeme) (before : Text → Prop) : Prop :=
  ∀ (stack after : Stack) (r : Text), stack.take w = some after → before r →
    Cuts stack (t ++ r) w after r

theorem Stack.take_append (w w' : List Lexeme) (stack : Stack) :
    stack.take (w ++ w') = (stack.take w).bind (take w') :=
  readBy_append w w' stack

theorem Stack.take_single {stack after : Stack} {l : Lexeme} :
    stack.take [l] = some after ↔ stack.feed l = .shifted after := by
  simp only [take, readBy, if_true]
  cases stack.feed l <;> simp

namespace Text.Writes

variable {t t' g : Text} {w w' : List Lexeme} {before before' : Text → Prop}

theorem append (h : t.Writes w before) (h' : t'.Writes w' before')
    (hbefore : ∀ r, before' r → before (t' ++ r)) : (t ++ t').Writes (w ++ w') before' := by
  intro stack after r htake hr
  rw [Stack.take_append] at htake
  obtain ⟨middle, hmiddle, hafter⟩ := Option.bind_eq_some_iff.mp htake
  rw [List.append_assoc]
  exact (h _ _ _ hmiddle (hbefore r hr)).append (h' _ _ _ hafter hr)

theorem mono (h : t.Writes w before) (hbefore : ∀ r, before' r → before r) : t.Writes w before' :=
  fun stack after r htake hr => h stack after r htake (hbefore r hr)

theorem gap (hg : Gap g) (h : t.Writes w before) (hw : w ≠ []) : (g ++ t).Writes w before := by
  intro stack after r htake hr
  rw [List.append_assoc]
  exact (h _ _ _ htake hr).gap hg hw

/-- A token that stands before whatever comes next. -/
theorem token {l : Lexeme} (hl : ∀ r, before r → l.Stands r) (hident : l.terminal ≠ .ident) :
    l.text.Writes [l] before := by
  intro stack after r htake hr
  have hfeed := Stack.take_single.mp htake
  have hstands := hl r hr
  have hscan := hstands.scanned _ (Stack.expects_of_shifted hfeed) fun h => absurd h hident
  exact .token (g := []) .nil hscan hstands.kept hfeed (.nil _ _)

theorem bracket {k : Terminal} (hk : k ∈ Lexeme.brackets) :
    (Lexeme.of k).text.Writes [Lexeme.of k] fun _ => True := by
  refine token (fun r _ => Lexeme.stands_bracket hk r) ?_
  rintro rfl
  exact absurd hk (by decide)

end Text.Writes

/-- A text that is cut into the tokens of a derivation is read as its meaning. -/
theorem Query.parse_of_writes {t : Text} {before : Text → Prop} {d : Derivation (.n .pipe)}
    (hd : d.Nearest) (h : t.Writes d.yield before) (hend : before []) : parse t = .ok d.eval := by
  let whole : QueryDerivation := .node .start (.cons d .nil)
  have hyield : whole.yield = d.yield := List.append_nil _
  have hnearest : whole.Nearest := ⟨hd, fun _ => List.not_mem_nil, trivial⟩
  have haccept := Stack.accept?_yield hnearest
  rw [hyield] at haccept
  obtain ⟨after, htake, -⟩ := Option.bind_eq_some_iff.mp haccept
  have hcuts := h [] after [] htake hend
  rw [List.append_nil] at hcuts
  exact (parse_eq_ok_iff_of_splits (hcuts.splits .nil)).mpr ⟨whole, ⟨hyield, hnearest⟩, rfl⟩

/-! ### Inside brackets -/

/-- A query inside brackets, as it is written. Its text does not end inside a comment, to which the
closing bracket would belong. -/
structure Inner where
  text : Text
  query : Query
  read : Query.parse text = .ok query
  closed : ∀ q, Query.parse (text ++ "]") ≠ .ok q

theorem Query.parse_ne_ok_of_toOption {t : Text} (h : (parse t).toOption = none) (q : Query) :
    parse t ≠ .ok q := by
  intro hq
  rw [hq] at h
  exact absurd h (by simp [Except.toOption])

namespace Automaton

/-- Does a state finish nothing, and may a query begin where it goes with a colon? -/
def Row.divides (r : Row) : Bool :=
  r.finish.isNone && (r.shifts.lookup .colon).all fun next => ((row next).gotos.lookup .pipe).isSome

/-- After an opening bracket a query may begin, and so it may after a colon that comes at once or
after that query. -/
theorem divides_of_bracket {state next : State}
    (h : (row state).shifts.lookup .openBracket = some next) : (row next).divides = true ∧
      ∃ after, (row next).gotos.lookup .pipe = some after ∧ (row after).divides = true := by
  have hall : (rows.toList.all fun r => (r.shifts.lookup .openBracket).all fun next =>
      (row next).divides &&
        ((row next).gotos.lookup .pipe).any fun after => (row after).divides) = true := by
    decide +kernel
  have hrow := List.all_eq_true.mp hall _ (row_mem_of_shift h)
  simpa [h, Option.any_eq_true] using hrow

end Automaton

namespace Stack

variable {stack after final : Stack}

/-- Has an opening bracket just been read? Then a query may begin, or a colon may come before it. -/
def AtBracket (stack : Stack) : Prop :=
  stack.row.divides = true ∧
    ∃ next, stack.row.gotos.lookup .pipe = some next ∧ (Automaton.row next).divides = true

theorem AtBracket.opens (h : stack.AtBracket) : stack.Opens :=
  h.2.imp fun _ => And.left

theorem atBracket_of_feed (h : stack.feed (Lexeme.of .openBracket) = .shifted after) :
    after.AtBracket := by
  obtain ⟨below, next, hnext, rfl⟩ := feed_shifted h
  exact Automaton.divides_of_bracket hnext

theorem opens_of_colon (hdivides : stack.row.divides = true)
    (h : stack.feed (Lexeme.of .colon) = .shifted after) : after.Opens := by
  rw [Automaton.Row.divides, Bool.and_eq_true, Option.isNone_iff_eq_none] at hdivides
  cases hshift : stack.row.shifts.lookup .colon with
  | none =>
    have hdue : stack.row.finish? .colon = none := by simp [Automaton.Row.finish?, hdivides.1]
    rw [feed_refuse hshift hdue] at h
    exact absurd h (by simp)
  | some next =>
    rw [feed_shift hshift] at h
    obtain rfl := Fed.shifted.inj h
    rw [hshift, Option.all_some] at hdivides
    exact Option.isSome_iff_exists.mp hdivides.2

theorem exists_take_append {w w' : List Lexeme} (h : stack.take (w ++ w') = some final) :
    ∃ after, stack.take w = some after ∧ after.take w' = some final := by
  rw [take_append] at h
  exact Option.bind_eq_some_iff.mp h

end Stack

/-- Where a query may begin, the text is cut into the tokens `w` before what breaks off a word. If a
bracket was opened there and a colon comes after them, a query may begin again. -/
def Text.Inside (t : Text) (w : List Lexeme) : Prop :=
  ∃ g, Gap g ∧ ∀ below : Stack, below.Opens → ∀ r : Text, r.Breaks →
    ∃ after, Cuts below (t ++ r) w after (g ++ r) ∧
      (below.AtBracket → ∀ final, after.feed (Lexeme.of .colon) = .shifted final → final.Opens)

namespace Text.Inside

variable {t t' : Text} {w w' : List Lexeme}

theorem nil : Inside [] [] :=
  ⟨[], .nil, fun below _ r _ =>
    ⟨below, .nil below r, fun hbelow _ hfeed => Stack.opens_of_colon hbelow.1 hfeed⟩⟩

theorem breaks_bracket (r : Text) : Breaks ("]" ++ r) :=
  ⟨by decide, fun h => absurd h (by decide)⟩

/-- What stands inside brackets, with the brackets. -/
theorem brackets (h : Inside t w) :
    ("[" ++ t ++ "]").Writes (Lexeme.of .openBracket :: (w ++ [Lexeme.of .closeBracket]))
      fun _ => True := by
  intro stack final r htake _
  obtain ⟨below, hopen, htake⟩ := Stack.exists_take_append (w := [Lexeme.of .openBracket]) htake
  obtain ⟨middle, hmiddle, hclose⟩ := Stack.exists_take_append htake
  have hbelow := Stack.atBracket_of_feed (Stack.take_single.mp hopen)
  obtain ⟨g, hg, hinside⟩ := h
  obtain ⟨after, hcuts, -⟩ := hinside below hbelow.opens _ (breaks_bracket r)
  obtain rfl := Option.some.inj (hmiddle.symm.trans hcuts.take_eq)
  have hlast := (Writes.bracket (by decide) middle final r hclose trivial).gap hg (by simp)
  have hfirst (r : Text) := Writes.bracket (by decide) stack below r hopen trivial
  rw [List.append_assoc, List.append_assoc]
  exact (hfirst _).append (hcuts.append hlast)

/-- Two texts inside brackets with a colon between them. -/
theorem slice (h : Inside t w) (h' : Inside t' w') (ht' : t'.head? ≠ some (.scalar ':')) :
    ("[" ++ t ++ ":" ++ t' ++ "]").Writes
      (Lexeme.of .openBracket :: (w ++ Lexeme.of .colon :: (w' ++ [Lexeme.of .closeBracket])))
      fun _ => True := by
  intro stack final r htake _
  obtain ⟨below, hopen, htake⟩ := Stack.exists_take_append (w := [Lexeme.of .openBracket]) htake
  obtain ⟨middle, hmiddle, htake⟩ := Stack.exists_take_append htake
  obtain ⟨below', hcolon, htake⟩ := Stack.exists_take_append (w := [Lexeme.of .colon]) htake
  obtain ⟨middle', hmiddle', hclose⟩ := Stack.exists_take_append htake
  have hbelow := Stack.atBracket_of_feed (Stack.take_single.mp hopen)
  have hbreaks : Breaks (":" ++ (t' ++ ("]" ++ r))) := by
    refine ⟨by decide, fun _ => ?_⟩
    cases t' with
    | nil => exact fun h => absurd (Option.some.inj h) (by decide)
    | cons c t' => exact ht'
  -- What the first text is read to is where the colon was taken, so a query may begin after it.
  obtain ⟨g, hg, hinside⟩ := h
  obtain ⟨after, hcuts, hopens⟩ := hinside below hbelow.opens _ hbreaks
  obtain rfl := Option.some.inj (hmiddle.symm.trans hcuts.take_eq)
  obtain ⟨g', hg', hinside'⟩ := h'
  have hbelow' := hopens hbelow below' (Stack.take_single.mp hcolon)
  obtain ⟨after, hcuts', -⟩ := hinside' below' hbelow' _ (breaks_bracket r)
  obtain rfl := Option.some.inj (hmiddle'.symm.trans hcuts'.take_eq)
  have hlast := (Writes.bracket (by decide) middle' final r hclose trivial).gap hg' (by simp)
  have hmark (r : Text) :=
    (Writes.bracket (by decide) middle below' r hcolon trivial).gap hg (by simp)
  have hfirst (r : Text) := Writes.bracket (by decide) stack below r hopen trivial
  simp only [List.append_assoc]
  exact (hfirst _).append (hcuts.append ((hmark _).append (hcuts'.append hlast)))

end Text.Inside

theorem Inner.exists_derivation (e : Inner) :
    ∃ d : Derivation (.n .pipe), d.Nearest ∧ d.eval = e.query ∧ e.text.Inside d.yield := by
  obtain ⟨d, g, heval, hd, hg, hcuts⟩ := Query.exists_cuts_of_parse e.read e.closed
  refine ⟨d, hd, heval, g, hg, fun below hopens r hr => ?_⟩
  obtain ⟨after, hafter⟩ := hcuts below hopens r hr
  refine ⟨after, hafter, fun hbelow final hfeed => ?_⟩
  obtain ⟨-, next, hnext, hdivides⟩ := hbelow
  have hsettles := Stack.settles_of_take hd hnext hafter.take_eq (l := Lexeme.of .colon) (by decide)
  rw [hsettles.feed] at hfeed
  have hrow : (Stack.row (⟨.n .pipe, d, next⟩ :: below)).divides = true := hdivides
  exact Stack.opens_of_colon hrow hfeed

/-! ### Links -/

/-- The text does not go on with a name. -/
def Text.LeavesName (t : Text) : Prop :=
  t.takeWhile Spelling.isNamePart = []

/-- A dot before what is neither a name nor a dot. -/
theorem Text.writes_dot :
    Text.Writes "." [Lexeme.of .dot] fun r =>
      r.head? ≠ some (.scalar '.') ∧ Spelling.plainName? r = none :=
  .token (fun _ hr => Lexeme.stands_dot hr.1 hr.2) (by decide)

/-- A link of a chain: a name, a string literal, or brackets with nothing, a query, or two bounds of
which either may be absent inside. -/
inductive Link
  | named (name : Text) (h : name.isPlainName = true)
  | key (literal : Text) (h : Spelling.string? literal = some literal)
  | all
  | place (e : Inner)
  | slice (start stop : Option Inner)

/-- The text of a bound, which may be absent. -/
def boundText (e : Option Inner) : Text :=
  (e.map Inner.text).getD []

namespace Link

/-- The text of a link after another one. -/
def suffix : Link → Text
  | named name _ => "." ++ name
  | key literal _ => "." ++ literal
  | all => "[]"
  | place e => "[" ++ e.text ++ "]"
  | slice start stop => "[" ++ boundText start ++ ":" ++ boundText stop ++ "]"

/-- The text of a link that stands alone: brackets need a dot before them. -/
def term : Link → Text
  | named name _ => "." ++ name
  | key literal _ => "." ++ literal
  | x => "." ++ x.suffix

/-- The access that a link stands for. -/
def access : Link → Query
  | named name _ => .field name
  | key literal _ => .keyIndex (Quoted.unquote literal)
  | all => .iterate
  | place e => .at e.query
  | slice start stop => .slice (start.map Inner.query) (stop.map Inner.query)

open Text (LeavesName)

theorem leavesName_suffix (x : Link) (r : Text) : LeavesName (x.suffix ++ r) := by
  cases x <;> rfl

/-- The tokens of a bound, and what they derive. -/
theorem exists_bound (e : Option Inner) : ∃ d : Option (Derivation (.n .pipe)),
    (∀ d' ∈ d, d'.Nearest) ∧ (d.map fun d => (d.eval : Query)) = e.map Inner.query ∧
      (boundText e).Inside ((d.map Derivation.yield).getD []) ∧
      (boundText e).head? ≠ some (.scalar ':') := by
  cases e with
  | none => exact ⟨none, by simp, rfl, .nil, by simp [boundText]⟩
  | some e =>
    obtain ⟨d, hd, heval, hinside⟩ := e.exists_derivation
    exact ⟨some d, by simpa using hd, congrArg some heval, hinside,
      Query.head_ne_colon_of_parse e.read⟩

/-- A slice after a term, whichever of its bounds are there. -/
theorem exists_slice {a b : Option (Derivation (.n .pipe))} (ha : ∀ d ∈ a, d.Nearest)
    (hb : ∀ d ∈ b, d.Nearest) {d : Derivation (.n .suffixed)} (hd : d.Nearest) :
    ∃ d' : Derivation (.n .suffixed), d'.Nearest ∧
      d'.yield = d.yield ++ Lexeme.of .openBracket :: ((a.map Derivation.yield).getD [] ++
        Lexeme.of .colon :: ((b.map Derivation.yield).getD [] ++ [Lexeme.of .closeBracket])) ∧
      (d'.eval : Query) = .chain d.eval (.slice (a.map fun d => (d.eval : Query))
        (b.map fun d => (d.eval : Query))) := by
  cases a with
  | none =>
    cases b with
    | none =>
      refine ⟨.node .suffixSliceAll (.cons d (.cons (.leaf .openBracket "[")
        (.cons (.leaf .colon ":") (.cons (.leaf .closeBracket "]") .nil)))), ?_, rfl, rfl⟩
      simp [Derivation.Nearest, Forest.Nearest, Symbol.heads, Symbol.first,
        Derivation.endsOpen, hd]
    | some b =>
      refine ⟨.node .suffixSliceTo (.cons d (.cons (.leaf .openBracket "[")
        (.cons (.leaf .colon ":") (.cons b (.cons (.leaf .closeBracket "]") .nil))))),
        ?_, rfl, rfl⟩
      simp [Derivation.Nearest, Forest.Nearest, Symbol.heads, Symbol.first,
        Derivation.endsOpen, hd, hb b rfl]
  | some a =>
    cases b with
    | none =>
      refine ⟨.node .suffixSliceFrom (.cons d (.cons (.leaf .openBracket "[")
        (.cons a (.cons (.leaf .colon ":") (.cons (.leaf .closeBracket "]") .nil))))),
        ?_, rfl, rfl⟩
      simp [Derivation.Nearest, Forest.Nearest, Symbol.heads, Symbol.first,
        Derivation.endsOpen, hd, ha a rfl]
    | some b =>
      refine ⟨.node .suffixSlice (.cons d (.cons (.leaf .openBracket "[")
        (.cons a (.cons (.leaf .colon ":") (.cons b (.cons (.leaf .closeBracket "]") .nil)))))),
        ?_, rfl, rfl⟩
      simp [Derivation.Nearest, Forest.Nearest, Symbol.heads, Symbol.first,
        Derivation.endsOpen, hd, ha a rfl, hb b rfl]

/-- A string literal after a dot. -/
theorem writes_key {literal : Text} (h : Spelling.string? literal = some literal) :
    Text.Writes ("." ++ literal) [Lexeme.of .dot, ⟨.string, literal⟩] fun _ => True := by
  obtain ⟨u, rfl⟩ : ∃ u, literal = .scalar '"' :: u := by
    unfold Spelling.string? at h
    split at h
    · exact ⟨_, rfl⟩
    · exact absurd h (by simp)
  have hrivals : Terminal.rivals .string (.scalar '"') = [] := by decide
  have hstring (r : Text) : Lexeme.Stands ⟨.string, .scalar '"' :: u⟩ r :=
    Lexeme.stands_of_rivals (by decide) (by decide) (by decide)
      ((Spelling.string?_eq_some h).2 r) (by simp [hrivals])
  refine Text.writes_dot.append (.token (l := ⟨.string, _⟩) (fun r _ => hstring r) (by simp)) ?_
  exact fun r _ => ⟨by simp, rfl⟩

/-- The tokens of a link after a term, and what they derive there. -/
theorem exists_suffix (x : Link) : ∃ w, x.suffix.Writes w LeavesName ∧
    ∀ d : Derivation (.n .suffixed), d.Nearest → ∃ d' : Derivation (.n .suffixed),
      d'.Nearest ∧ d'.yield = d.yield ++ w ∧ (d'.eval : Query) = .chain d.eval x.access := by
  cases x with
  | named name h =>
    refine ⟨[⟨.field, "." ++ name⟩], ?_, fun d hd => ?_⟩
    · exact .token (l := ⟨.field, "." ++ name⟩) (fun r hr => Lexeme.stands_field h hr) (by simp)
    · refine ⟨.node .suffixField (.cons d (.cons (.leaf .field ("." ++ name)) .nil)), ?_, rfl, rfl⟩
      simp [Derivation.Nearest, Forest.Nearest, Symbol.heads, Symbol.first,
        Derivation.endsOpen, hd]
  | key literal h =>
    refine ⟨_, (writes_key h).mono fun _ _ => trivial, fun d hd => ?_⟩
    refine ⟨.node .suffixKey (.cons d (.cons (.leaf .dot ".")
      (.cons (.leaf .string literal) .nil))), ?_, rfl, rfl⟩
    simp [Derivation.Nearest, Forest.Nearest, Symbol.heads, Symbol.first, Derivation.endsOpen, hd]
  | all =>
    refine ⟨_, (Text.Inside.nil.brackets).mono fun _ _ => trivial, fun d hd => ?_⟩
    refine ⟨.node .suffixIterate (.cons d (.cons (.leaf .openBracket "[")
      (.cons (.leaf .closeBracket "]") .nil))), ?_, rfl, rfl⟩
    simp [Derivation.Nearest, Forest.Nearest, Symbol.heads, Symbol.first, Derivation.endsOpen, hd]
  | place e =>
    obtain ⟨inner, hinner, heval, hinside⟩ := e.exists_derivation
    refine ⟨_, hinside.brackets.mono fun _ _ => trivial, fun d hd => ?_⟩
    refine ⟨.node .suffixIndex (.cons d (.cons (.leaf .openBracket "[")
      (.cons inner (.cons (.leaf .closeBracket "]") .nil)))), ?_, rfl, ?_⟩
    · simp [Derivation.Nearest, Forest.Nearest, Symbol.heads, Symbol.first,
        Derivation.endsOpen, hd, hinner]
    · rw [access, ← heval]
      rfl
  | slice start stop =>
    obtain ⟨a, ha, hstart, hinside, -⟩ := exists_bound start
    obtain ⟨b, hb, hstop, hinside', hcolon⟩ := exists_bound stop
    refine ⟨_, (hinside.slice hinside' hcolon).mono fun _ _ => trivial, fun d hd => ?_⟩
    rw [access, ← hstart, ← hstop]
    exact exists_slice ha hb hd

/-- The tokens of a link that stands alone, and what they derive. -/
theorem exists_term (x : Link) : ∃ d : Derivation (.n .suffixed),
    d.Nearest ∧ x.term.Writes d.yield LeavesName ∧ (d.eval : Query) = x.access := by
  -- Brackets stand after the input, which is not there in their meaning.
  have hbrackets (x : Link) (hbracket : ∃ t, x.suffix = .scalar '[' :: t)
      (hterm : x.term = "." ++ x.suffix) : ∃ d : Derivation (.n .suffixed),
        d.Nearest ∧ x.term.Writes d.yield LeavesName ∧ (d.eval : Query) = x.access := by
    obtain ⟨w, hwrites, hderives⟩ := exists_suffix x
    obtain ⟨d, hd, hyield, heval⟩ := hderives (.node .suffixedOfPrimary
      (.cons (.node .identity (.cons (.leaf .dot ".") .nil)) .nil))
      (by simp [Derivation.Nearest, Forest.Nearest, Symbol.heads])
    obtain ⟨t, ht⟩ := hbracket
    refine ⟨d, hd, ?_, heval⟩
    rw [hyield, hterm]
    refine Text.writes_dot.append hwrites fun r _ => ?_
    rw [ht]
    exact ⟨by simp, rfl⟩
  cases x with
  | named name h =>
    refine ⟨.node .suffixedOfPrimary
      (.cons (.node .field (.cons (.leaf .field ("." ++ name)) .nil)) .nil), ?_, ?_, rfl⟩
    · simp [Derivation.Nearest, Forest.Nearest, Symbol.heads]
    · exact .token (l := ⟨.field, "." ++ name⟩) (fun r hr => Lexeme.stands_field h hr) (by simp)
  | key literal h =>
    refine ⟨.node .suffixedOfPrimary (.cons (.node .quotedField (.cons (.leaf .dot ".")
      (.cons (.leaf .string literal) .nil))) .nil), ?_, ?_, rfl⟩
    · simp [Derivation.Nearest, Forest.Nearest, Symbol.heads, Symbol.first]
    · exact (writes_key h).mono fun _ _ => trivial
  | all | place | slice => exact hbrackets _ ⟨_, rfl⟩ rfl

end Link

open Text (LeavesName)

/-! ### Chains -/

/-- The text of a chain. -/
def chainText (first : Link) (rest : List Link) : Text :=
  first.term ++ rest.flatMap Link.suffix

/-- The query of a chain after a query. -/
def attached (q : Query) (rest : List Link) : Query :=
  rest.foldl (fun q x => q.chain x.access) q

/-- A term with any number of links after it. -/
theorem exists_attached (rest : List Link) {t : Text} {d : Derivation (.n .suffixed)} {q : Query}
    (hd : d.Nearest) (h : t.Writes d.yield LeavesName) (heval : d.eval = q) :
    ∃ d' : Derivation (.n .suffixed), d'.Nearest ∧
      (t ++ rest.flatMap Link.suffix).Writes d'.yield LeavesName ∧ d'.eval = attached q rest := by
  -- The chain so far is the term that the next link is attached to.
  induction rest generalizing t d q with
  | nil => exact ⟨d, hd, by simpa using h, heval⟩
  | cons x rest ih =>
    obtain ⟨w, hwrites, hderives⟩ := x.exists_suffix
    obtain ⟨next, hnext, hyield, hchain⟩ := hderives d hd
    have hjoined := h.append hwrites fun r _ => x.leavesName_suffix r
    rw [← hyield] at hjoined
    rw [List.flatMap_cons, ← List.append_assoc]
    exact ih hnext hjoined (hchain.trans (congrArg (Query.chain · x.access) heval))

namespace Derivation

/-- A term with its suffixes as a sequence without commas. -/
def climbed (d : Derivation (.n .suffixed)) : Derivation (.n .comma) :=
  .node .commaOfAlt (.cons (.node .altOfAssign (.cons (.node .assignOfOr (.cons
    (.node .orOfAnd (.cons (.node .andOfCompare (.cons (.node .compareOfAdditive (.cons
      (.node .additiveOfMultiplicative (.cons (.node .multiplicativeOfUnary (.cons
        (.node .unaryOfSuffixed (.cons d .nil)) .nil)) .nil)) .nil)) .nil)) .nil)) .nil)) .nil)) .nil)

/-- A term with its suffixes as a query. -/
def alone (d : Derivation (.n .suffixed)) : Derivation (.n .pipe) :=
  .node .pipeOfComma (.cons d.climbed .nil)

/-- A term with its suffixes and a pipe to a query. -/
def pipedTo (d : Derivation (.n .suffixed)) (next : Derivation (.n .pipe)) :
    Derivation (.n .pipe) :=
  .node .pipeOp (.cons d.climbed (.cons (.leaf .bar "|") (.cons next .nil)))

variable {d : Derivation (.n .suffixed)} {next : Derivation (.n .pipe)}

theorem alone_spec (hd : d.Nearest) :
    d.alone.Nearest ∧ d.alone.yield = d.yield ∧ (d.alone.eval : Query) = d.eval := by
  refine ⟨?_, ?_, rfl⟩
  · simp [alone, climbed, Nearest, Forest.Nearest, Symbol.heads, hd]
  · simp [alone, climbed, yield, Forest.yield]

theorem pipedTo_spec (hd : d.Nearest) (hnext : next.Nearest) : (d.pipedTo next).Nearest ∧
    (d.pipedTo next).yield = d.yield ++ [Lexeme.of .bar] ++ next.yield ∧
      ((d.pipedTo next).eval : Query) = .pipe d.eval next.eval := by
  refine ⟨?_, ?_, rfl⟩
  · simp [pipedTo, climbed, Nearest, Forest.Nearest, Symbol.heads, Symbol.first, endsOpen, hd,
      hnext]
  · have hbar : Lexeme.of .bar = ⟨.bar, "|"⟩ := rfl
    simp [pipedTo, climbed, yield, Forest.yield, hbar]

end Derivation

/-- A chain is read as pipes that lean to the left. -/
theorem parse_suffixChain (first : Link) (rest : List Link) :
    Query.parse (chainText first rest) = .ok (attached first.access rest) := by
  obtain ⟨term, hterm, hwrites, heval⟩ := first.exists_term
  obtain ⟨d, hd, hchain, hmeaning⟩ := exists_attached rest hterm hwrites heval
  obtain ⟨hnearest, hyield, halone⟩ := Derivation.alone_spec hd
  rw [← hyield] at hchain
  rw [← halone.trans hmeaning]
  exact Query.parse_of_writes hnearest hchain rfl

/-! ### Links with pipes between them -/

/-- The text of links that stand alone, each with a text before it but for the first one. -/
def pipedText (separator : Text) (first : Link) (rest : List Link) : Text :=
  first.term ++ rest.flatMap fun x => separator ++ x.term

/-- The query of links with pipes between them. -/
def pipedQuery (first : Link) : List Link → Query
  | [] => first.access
  | x :: rest => .pipe first.access (pipedQuery x rest)

theorem Link.term_eq (x : Link) : ∃ t, x.term = .scalar '.' :: t := by
  cases x <;> exact ⟨_, rfl⟩

theorem exists_pipedText (separator : Text) (first : Link) (rest : List Link) :
    ∃ t, pipedText separator first rest = .scalar '.' :: t := by
  obtain ⟨t, ht⟩ := first.term_eq
  exact ⟨_, by rw [pipedText, ht, List.cons_append]⟩

/-- A name breaks off before a bar, with or without a gap. -/
theorem leavesName_bar {g : Text} (hg : Gap g) (r : Text) : LeavesName (g ++ "|" ++ r) := by
  rw [List.append_assoc]
  obtain rfl | hbegins := hg.eq_nil_or_begins
  · rfl
  · exact (hbegins _).breaks.1.takeWhile_eq_nil (by decide)

theorem exists_piped {g g' : Text} (hg : Gap g) (hg' : Gap g') (first : Link) (rest : List Link) :
    ∃ d : Derivation (.n .pipe), d.Nearest ∧
      (pipedText (g ++ "|" ++ g') first rest).Writes d.yield LeavesName ∧
        d.eval = pipedQuery first rest := by
  induction rest generalizing first with
  | nil =>
    obtain ⟨term, hterm, hwrites, heval⟩ := first.exists_term
    obtain ⟨hnearest, hyield, halone⟩ := Derivation.alone_spec hterm
    refine ⟨term.alone, hnearest, ?_, halone.trans heval⟩
    rw [hyield]
    simpa [pipedText] using hwrites
  | cons x rest ih =>
    obtain ⟨term, hterm, hwrites, heval⟩ := first.exists_term
    obtain ⟨next, hnext, hrest, hmeaning⟩ := ih x
    obtain ⟨hnearest, hyield, hpiped⟩ := Derivation.pipedTo_spec hterm hnext
    have hbar : Text.Writes "|" [Lexeme.of .bar] fun r => r.head? ≠ some (.scalar '=') :=
      .token (l := Lexeme.of .bar) (fun r hr => Lexeme.stands_bar hr) (by decide)
    have hdot (r : Text) : (g' ++ pipedText (g ++ "|" ++ g') x rest ++ r).head? ≠
        some (.scalar '=') := by
      obtain ⟨t, ht⟩ := exists_pipedText (g ++ "|" ++ g') x rest
      rw [List.append_assoc, ht]
      exact hg'.head_ne (by decide) (by decide) (by simp)
    have hfirst := hwrites.append (hbar.gap hg (by simp)) fun r _ => leavesName_bar hg r
    have hjoined := hfirst.append (hrest.gap hg' next.yield_ne_nil) fun r _ => hdot r
    refine ⟨term.pipedTo next, hnearest, ?_, hpiped.trans (congrArg₂ Query.pipe heval hmeaning)⟩
    rw [hyield]
    simpa [pipedText] using hjoined

/-- Links with pipes between them are read as pipes that lean to the right. -/
theorem parse_pipedLinks {g g' : Text} (hg : Gap g) (hg' : Gap g') (first : Link)
    (rest : List Link) :
    Query.parse (pipedText (g ++ "|" ++ g') first rest) = .ok (pipedQuery first rest) := by
  obtain ⟨d, hd, hwrites, heval⟩ := exists_piped hg hg' first rest
  rw [← heval]
  exact Query.parse_of_writes hd hwrites rfl

end JqFlow
