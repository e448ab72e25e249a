import JqFlow.Proofs.Reading.Terms

/-!
# Lists of parts

Calls and objects have any number of parts. The grammar puts them together from the left, so what is
read of several is put together part by part from the left.

## Main definitions

- `every`: the meanings of several parts

## Main statements

- `reads_call`, `reads_object`: calls and objects with at least one part
- `reads_namedEntry`, `reads_quotedEntry`, `reads_computedEntry`: the three kinds of entries
-/

namespace JqFlow

open Text (Closes)

/-! ### Several parts of one kind -/

/-- The meanings of several parts. -/
def every {α : Type} : List (Option α) → Option (List α)
  | [] => some []
  | o :: os => (both o (every os)).map fun p => p.1 :: p.2

section Every

variable {α β : Type} {P : Text → Option (List β) → Prop} {f : α → Text}

/-- What is read of a first part, and of one part more, is read of several. -/
theorem every_append {items : List (α × Option β)}
    (more : ∀ i ∈ items, ∀ t o, P t o →
      P (t ++ f i.1) ((both o i.2).map fun p => p.1 ++ [p.2]))
    {t : Text} {o : Option (List β)} (h : P t o) :
    P (t ++ items.flatMap fun i => f i.1)
      ((both o (every (items.map Prod.snd))).map fun p => p.1 ++ p.2) := by
  induction items generalizing t o with
  | nil =>
    have ho : ((both o (every [])).map fun p => p.1 ++ p.2) = o := by
      cases o <;> simp [both, every]
    simpa [ho] using h
  | cons i items ih =>
    obtain ⟨a, first⟩ := i
    have hfirst := more (a, first) List.mem_cons_self t o h
    have hall := ih (fun j hj => more j (List.mem_cons_of_mem _ hj)) hfirst
    have ho : ((both ((both o first).map fun p => p.1 ++ [p.2]) (every (items.map Prod.snd))).map
        fun p => p.1 ++ p.2) =
        (both o (every (((a, first) :: items).map Prod.snd))).map fun p => p.1 ++ p.2 := by
      cases o <;> cases first <;> cases hrest : every (items.map Prod.snd) <;>
        simp [both, every, hrest]
    rw [ho, List.append_assoc] at hall
    exact hall

theorem every_cons {i : α × Option β} {items : List (α × Option β)}
    (one : P (f i.1) (i.2.map fun x => [x]))
    (more : ∀ j ∈ items, ∀ t o, P t o →
      P (t ++ f j.1) ((both o j.2).map fun p => p.1 ++ [p.2])) :
    P ((i :: items).flatMap fun j => f j.1) (every ((i :: items).map Prod.snd)) := by
  obtain ⟨a, first⟩ := i
  have hall := every_append more one
  have ho : ((both (first.map fun x => [x]) (every (items.map Prod.snd))).map fun p => p.1 ++ p.2) =
      every (((a, first) :: items).map Prod.snd) := by
    cases first <;> cases hrest : every (items.map Prod.snd) <;> simp [both, every, hrest]
  rwa [ho] at hall

theorem join_cons (separator t : Text) (ts : List Text) :
    Text.join separator (t :: ts) = t ++ ts.flatMap fun u => separator ++ u := by
  induction ts generalizing t with
  | nil => simp [Text.join, List.intercalate]
  | cons u ts ih =>
    have hstep : Text.join separator (t :: u :: ts) = t ++ separator ++ Text.join separator (u :: ts) := by
      simp [Text.join, List.intercalate]
    rw [hstep, ih]
    simp

end Every

/-! ### Calls -/

section Calls

variable {i : Query × Option Query} {items : List (Query × Option Query)}

/-- The arguments of a call after the first. -/
theorem reads_moreArgs (h : ∀ j ∈ i :: items, ReadsAt 13 false true j.1.print j.2) :
    Reads (.n .moreArgs) Closes false true ((i :: items).flatMap fun j => "; " ++ j.1.print)
      (every ((i :: items).map Prod.snd)) := by
  refine every_cons (P := fun t o => Reads (.n .moreArgs) Closes false true t o)
    (f := fun q => "; " ++ Query.print q) ?_ ?_
  · have hlast := (ReadsRest.lastQuery (h i List.mem_cons_self)).blank
    have hall := ReadsAll.bracket (k := .semicolon) hlast (by decide)
    revert hall
    cases i.2 <;> exact fun hall => Reads.node .argsOne hall rfl (.inl (by decide))
  · intro j hj t o hmore
    have hlast := (ReadsRest.lastQuery (h j (List.mem_cons_of_mem i hj))).blank
    have hall := ReadsAll.cons hmore (hlast.bracket (k := .semicolon) (by decide)) (by decide)
      (fun r _ => Text.closes_of_mem (by decide) (by decide) (by decide))
      (fun hmem => absurd hmem (by decide))
    revert hall
    cases o <;> cases j.2 <;> exact fun hall => Reads.node .argsMore hall rfl (.inl (by decide))

theorem reads_call {name : Text} (hname : Spelling.name? name = some name) (hbarred : name ∉ barred)
    (h : ∀ j ∈ i :: items, ReadsAt 13 false true j.1.print j.2) :
    ReadsAt 2 (name = "label") false
      (name ++ "(" ++ Text.join "; " ((i :: items).map fun j => j.1.print) ++ ")")
      ((every ((i :: items).map Prod.snd)).map fun args => .call name args) := by
  have hstands (t : Text) : Lexeme.Stands ⟨.ident, name⟩ (.scalar '(' :: t) :=
    Lexeme.stands_name hname ⟨by decide, fun heq => absurd heq (by decide)⟩
  have hfirst := h i List.mem_cons_self
  have hclose : ReadsRest [.t .closeParen] false ")" (some ((Lexeme.of .closeParen).text, ())) :=
    .lastBracket (by decide)
  have hclosed (r : Text) : Closes ((")" : Text) ++ r) :=
    Text.closes_of_mem (by decide) (by decide) (by decide)
  cases items with
  | nil =>
    have hopen := (ReadsRest.query hfirst hclose (fun r _ => hclosed r) (by decide)).bracket
      (k := .openParen) (by decide)
    have hall := ReadsAll.word (l := ⟨.ident, name⟩) hopen (fun r _ => hstands _) fun _ => hbarred
    have htext : name ++ "(" ++ Text.join "; " [i.1.print] ++ ")" =
        name ++ ((Lexeme.of .openParen).text ++ (i.1.print ++ ")")) := by
      simp [join_cons, Lexeme.of, Terminal.literal?]
    rw [List.map_singleton, htext]
    revert hall
    cases hi : i.2 <;> simp only [List.map_cons, List.map_nil, every, hi] <;>
      exact fun hall => Reads.node .call hall rfl (.inl (by decide))
  | cons j items =>
    have hmore := reads_moreArgs fun k hk => h k (List.mem_cons_of_mem i hk)
    have hsemicolon (r : Text) :
        Closes (((j :: items).flatMap fun k => ("; " : Text) ++ k.1.print) ++ ")" ++ r) :=
      Text.closes_of_mem (by decide) (by decide) (by decide)
    have hrest := ReadsRest.cons hmore hclose (by decide) (fun r _ => hclosed r)
      (fun hmem => absurd hmem (by decide)) (by simp)
    have hopen := (ReadsRest.query hfirst hrest (fun r _ => hsemicolon r) (by decide)).bracket
      (k := .openParen) (by decide)
    have hall := ReadsAll.word (l := ⟨.ident, name⟩) hopen (fun r _ => hstands _) fun _ => hbarred
    have htext : name ++ "(" ++ Text.join "; " ((i :: j :: items).map fun k => k.1.print) ++ ")" =
        name ++ ((Lexeme.of .openParen).text ++ (i.1.print ++
          (((j :: items).flatMap fun k => ("; " : Text) ++ k.1.print) ++ ")"))) := by
      rw [List.map_cons, join_cons, List.flatMap_map]
      simp [Lexeme.of, Terminal.literal?]
    have hevery : every ((i :: j :: items).map Prod.snd) =
        (both i.2 (every ((j :: items).map Prod.snd))).map fun p => p.1 :: p.2 := rfl
    rw [htext, hevery]
    revert hall
    generalize every ((j :: items).map Prod.snd) = others
    cases i.2 <;> cases others <;>
      exact fun hall => Reads.node .callMore hall rfl (.inl (by decide))

end Calls

/-! ### Objects -/

section Entries

variable {lead isOpen : Bool} {t key : Text} {o : Option Query}

/-- A name before the other symbols of an entry; it may be any name. -/
theorem reads_keyed {os : Option (Symbol.Values [.t .colon, .n .objValue])}
    (rest : ReadsRest [.t .colon, .n .objValue] isOpen t os)
    (hstands : ∀ r, Closes r → Lexeme.Stands ⟨.ident, key⟩ (t ++ r)) :
    Reads (.n .entry) Closes true isOpen (key ++ t)
      (os.map fun p => (⟨key, p.2.1, none⟩ : Entry Query)) := by
  cases os with
  | some vs =>
    obtain ⟨f, rfl, hnearest, hworded, hopen, hlayout⟩ := rest
    refine ⟨.node .entryName (.cons (.leaf .ident key) f), rfl,
      ⟨⟨trivial, fun h => absurd h Bool.false_ne_true, hnearest⟩,
        ⟨⟨.inl rfl, hworded⟩, fun h => absurd h (by decide)⟩, fun _ => rfl, ?_⟩, ?_⟩
    · intro hends
      match f with
      | .cons first (.cons second .nil) => exact hopen hends
    · intro r hr
      rw [List.append_assoc]
      exact .word (hstands r hr) (hlayout r hr)
  | none =>
    obtain ⟨l, _, hrun⟩ := rest
    refine ⟨⟨.ident, key⟩, show Terminal.ident ∈ Nonterminal.entry.first by decide, ?_⟩
    intro early stack next hsettles hnext _ r hr
    obtain ⟨state, hshift, hfeed⟩ := Stack.feed_first (p := .entryName) rfl rfl hsettles hnext
    obtain ⟨hleads, -, hapart⟩ := Automaton.leads_of_goto (p := .entryName) hnext
    have hshift' : (Automaton.row stack.state).next? (.t .ident) = some state := hshift
    have hsees : early.row.sees ⟨.ident, key⟩ = true := by
      rw [hsettles.sees]
      exact Automaton.sees_key hnext _
    have hword := Stack.run_word (hstands r hr) (Stack.expects_of_shifted hfeed) hsees
    rw [hfeed] at hword
    rw [List.append_assoc]
    refine hword.trans (hrun _ _ (Automaton.follow stack.row.isWide .entry) (.refl _) ?_ ?_ r hr)
    · simp only [Production.rhs, Production.rule, Automaton.leads, hshift', Bool.and_eq_true] at hleads
      simp only [Automaton.leads]
      exact hleads.2
    · have hrest : Automaton.apart state [.t .colon, .n .objValue] = true := by
        simpa [Production.rhs, Production.rule, Automaton.target, hshift'] using hapart
      exact hrest

/-- A value that is no pipe. -/
theorem reads_value (h : ReadsAt 4 lead isOpen t o) :
    Reads (.n .objValue) Closes lead isOpen t o := by
  have h : Reads (.n .unary) Closes lead isOpen t o := h
  cases o <;> exact Reads.node .valueOfUnary (h.alone (by decide)) rfl (.inl (by decide))

/-- The value of an entry with the colon before it. -/
theorem readsRest_value (h : Reads (.n .objValue) Closes lead isOpen t o) :
    ReadsRest [.t .colon, .n .objValue] isOpen (": " ++ t)
      (both (some (Lexeme.of .colon).text) (both o (some ()))) := by
  have hlast := ReadsRest.cons h .nil (by decide) (fun _ hr => hr)
    (fun hmem => absurd hmem List.not_mem_nil) (fun _ => ⟨_, rfl, by decide⟩)
  rw [List.append_nil] at hlast
  exact hlast.blank.bracket (k := .colon) (by decide)

theorem reads_namedEntry (hkey : key.isPlainName = true)
    (h : Reads (.n .objValue) Closes lead isOpen t o) :
    Reads (.n .entry) Closes true isOpen (key ++ (": " ++ t))
      (o.map fun v => (⟨key, v, none⟩ : Entry Query)) := by
  have hstands (r : Text) (_ : Closes r) : Lexeme.Stands ⟨.ident, key⟩ ((": " ++ t) ++ r) :=
    Lexeme.stands_name (Spelling.name?_of_isPlainName hkey)
      ⟨by decide, fun _ => show some (CodePoint.scalar ' ') ≠ some (.scalar ':') by decide⟩
  have hentry := reads_keyed (readsRest_value h) hstands
  cases o <;> exact hentry

theorem reads_quotedEntry (key : Text) (h : Reads (.n .objValue) Closes lead isOpen t o) :
    Reads (.n .entry) Closes true isOpen (Quoted.quote key ++ (": " ++ t))
      (o.map fun v => (⟨key, v, none⟩ : Entry Query)) := by
  have hall := ReadsAll.word (l := ⟨.string, Quoted.quote key⟩) (readsRest_value h)
    (fun r _ => Lexeme.stands_string key _) (by simp)
  have hnode := (Reads.node .entryString hall rfl (.inl (by decide))).leading
  cases o with
  | none => exact hnode
  | some v =>
    obtain ⟨d, heval, hd, hlayout⟩ := hnode
    have hmeans := congrArg (fun k => (⟨k, v, none⟩ : Entry Query)) (Quoted.unquote_quote key)
    exact ⟨d, heval.trans hmeans, hd, hlayout⟩

theorem reads_computedEntry {isOpen' : Bool} {u : Text} {ok : Option Query}
    (hkey : ReadsAt 13 false isOpen' u ok) (h : Reads (.n .objValue) Closes lead isOpen t o) :
    Reads (.n .entry) Closes true isOpen ("(" ++ u ++ ")" ++ (": " ++ t))
      ((both ok o).map fun p => (⟨p.1.print, p.2, some p.1⟩ : Entry Query)) := by
  have hclose := (readsRest_value h).bracket (k := .closeParen) (by decide)
  have hall := ReadsAll.bracket (k := .openParen) (ReadsRest.query hkey hclose
    (fun r _ => Text.closes_of_mem (by decide) (by decide) (by decide)) (by decide)) (by decide)
  simp only [List.append_assoc]
  revert hall
  cases ok <;> cases o <;> exact fun hall =>
    (Reads.node .entryComputed hall rfl (.inl (by decide))).leading

end Entries

section Objects

variable {α : Type} {f : α → Text} {i : α × Option (Entry Query)}
  {items : List (α × Option (Entry Query))}

/-- The entries of an object after the first. -/
theorem reads_moreEntries
    (h : ∀ j ∈ i :: items, Reads (.n .entry) Closes true true (f j.1) j.2) :
    Reads (.n .moreEntries) Closes false true ((i :: items).flatMap fun j => ", " ++ f j.1)
      (every ((i :: items).map Prod.snd)) := by
  have hlast (j : α × Option (Entry Query)) (hj : j ∈ i :: items) :
      ReadsRest [.n .entry] true (.scalar ' ' :: f j.1) (both j.2 (some ())) := by
    have hentry := ReadsRest.cons (h j hj) .nil (by decide) (fun _ hr => hr)
      (fun hmem => absurd hmem List.not_mem_nil) (fun _ => ⟨_, rfl, by decide⟩)
    rw [List.append_nil] at hentry
    exact hentry.blank
  refine every_cons (P := fun t o => Reads (.n .moreEntries) Closes false true t o)
    (f := fun e => ", " ++ f e) ?_ ?_
  · have hall := ReadsAll.bracket (k := .comma) (hlast i List.mem_cons_self) (by decide)
    revert hall
    cases i.2 <;> exact fun hall => Reads.node .entriesOne hall rfl (.inl (by decide))
  · intro j hj t o hmore
    have hcomma := (hlast j (List.mem_cons_of_mem i hj)).bracket (k := .comma) (by decide)
    have hall := ReadsAll.cons hmore hcomma (by decide)
      (fun r _ => Text.closes_of_mem (by decide) (by decide) (by decide))
      (fun hmem => absurd hmem (by decide))
    revert hall
    cases o <;> cases j.2 <;>
      exact fun hall => Reads.node .entriesMore hall rfl (.inl (by decide))

theorem reads_emptyObject : ReadsAt 2 false false "\x7b\x7d" (some (.object [])) := by
  have hobject := Reads.node .objectEmpty (ReadsAll.bracket (k := .openBrace)
    (.lastBracket (k := .closeBrace) (by decide)) (by decide)) rfl (.inl (by decide))
  exact Reads.node .primaryOfObject (hobject.alone (by decide)) rfl (.inl (by decide))

theorem reads_object
    (h : ∀ j ∈ i :: items, Reads (.n .entry) Closes true true (f j.1) j.2) :
    ReadsAt 2 false false
      ("\x7b" ++ Text.join ", " ((i :: items).map fun j => f j.1) ++ "\x7d")
      ((every ((i :: items).map Prod.snd)).map .object) := by
  have hclose : ReadsRest [.t .closeBrace] false "\x7d"
      (some ((Lexeme.of .closeBrace).text, ())) :=
    .lastBracket (by decide)
  have hclosed (r : Text) : Closes (("\x7d" : Text) ++ r) :=
    Text.closes_of_mem (by decide) (by decide) (by decide)
  have hfirst := h i List.mem_cons_self
  have hobject {t : Text} {o : Option (List (Entry Query))}
      (hread : Reads (.n .object) Closes false false t (o.map .object)) :
      ReadsAt 2 false false t (o.map .object) := by
    cases o <;>
      exact Reads.node .primaryOfObject (hread.alone (by decide)) rfl (.inl (by decide))
  refine hobject ?_
  cases items with
  | nil =>
    have hall := ReadsAll.bracket (k := .openBrace)
      (ReadsRest.cons hfirst hclose (by decide) (fun r _ => hclosed r)
        (fun hmem => absurd hmem (by decide)) (fun _ => ⟨_, rfl, by decide⟩)) (by decide)
    have htext : "\x7b" ++ Text.join ", " ([i].map fun j => f j.1) ++ "\x7d" =
        (Lexeme.of .openBrace).text ++ (f i.1 ++ "\x7d") := by
      simp [join_cons, Lexeme.of, Terminal.literal?]
    rw [htext]
    revert hall
    cases hi : i.2 <;> simp only [List.map_cons, List.map_nil, every, hi] <;>
      exact fun hall => Reads.node .objectOne hall rfl (.inl (by decide))
  | cons j items =>
    have hmore := reads_moreEntries fun k hk => h k (List.mem_cons_of_mem i hk)
    have hcomma (r : Text) :
        Closes (((j :: items).flatMap fun k => (", " : Text) ++ f k.1) ++ "\x7d" ++ r) :=
      Text.closes_of_mem (by decide) (by decide) (by decide)
    have hrest := ReadsRest.cons hmore hclose (by decide) (fun r _ => hclosed r)
      (fun hmem => absurd hmem (by decide)) (by simp)
    have hall := ReadsAll.bracket (k := .openBrace)
      (ReadsRest.cons hfirst hrest (by decide) (fun r _ => hcomma r)
        (fun hmem => absurd hmem (by decide)) (fun _ => ⟨_, rfl, by decide⟩)) (by decide)
    have htext : "\x7b" ++ Text.join ", " ((i :: j :: items).map fun k => f k.1) ++ "\x7d" =
        (Lexeme.of .openBrace).text ++ (f i.1 ++
          (((j :: items).flatMap fun k => (", " : Text) ++ f k.1) ++ "\x7d")) := by
      rw [List.map_cons, join_cons, List.flatMap_map]
      simp [Lexeme.of, Terminal.literal?]
    have hevery : every ((i :: j :: items).map Prod.snd) =
        (both i.2 (every ((j :: items).map Prod.snd))).map fun p => p.1 :: p.2 := rfl
    rw [htext, hevery]
    revert hall
    generalize every ((j :: items).map Prod.snd) = others
    cases i.2 <;> cases others <;>
      exact fun hall => Reads.node .objectMore hall rfl (.inl (by decide))

end Objects

end JqFlow
