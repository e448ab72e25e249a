import JqFlow.Proofs.Reading.Lists

/-!
# Clauses and suffixes

Terms that are put together with keywords, and the suffixes of terms.

## Main definitions

- `Suffixes`: a text that is read as a suffix of whatever comes before it

## Main statements

- `reads_negate`, `reads_condThen`, `reads_attempt`, `reads_reduce` and the like: one for each kind
  of term
- `suffixes_index`, `suffixes_slice` and the like: one for each kind of suffix
-/

namespace JqFlow

open Text (Closes)

section Prefixed

variable {lead lead' isOpen isOpen' : Bool} {t u : Text} {o o' : Option Query}

theorem reads_negate (h : ReadsAt 3 lead isOpen t o)
    (ht : ∀ r, (t ++ r).head? ≠ some (.scalar '=')) :
    ReadsAt 4 false isOpen ("-" ++ t) (o.map (.unary "-")) := by
  have h : Reads (.n .suffixed) Closes lead isOpen t o := h
  have hlast := ReadsRest.cons h .nil (by decide) (fun _ hr => hr)
    (fun hmem => absurd hmem List.not_mem_nil) (fun _ => ⟨_, rfl, by decide⟩)
  rw [List.append_nil] at hlast
  have hall := ReadsAll.word (l := Lexeme.of .minus) hlast (fun r _ => Lexeme.stands_minus (ht r))
    (by decide)
  revert hall
  cases o <;> exact fun hall => Reads.node .negate hall rfl (.inl (by decide))

theorem reads_attempt (h : ReadsAt 2 lead isOpen t o) :
    ReadsAt 2 false true ("try " ++ t) (o.map fun q => .attempt q none) := by
  have h : Reads (.n .primary) Closes lead isOpen t o := h
  have hlast := ReadsRest.cons h .nil (by decide) (fun _ hr => hr)
    (fun hmem => absurd hmem List.not_mem_nil) (fun _ => ⟨_, rfl, by decide⟩)
  rw [List.append_nil] at hlast
  have hall := ReadsAll.keyword (k := .kwTry) hlast (by decide)
  cases o <;> exact Reads.node .attempt hall rfl (.inl (by decide))

/-- The body does not end with a `try` that has no `catch`, or the `catch` would belong to that. -/
theorem reads_attemptCatch (h : ReadsAt 2 lead false t o) (h' : ReadsAt 2 lead' isOpen u o') :
    ReadsAt 2 false isOpen ("try " ++ t ++ " catch " ++ u)
      ((both o o').map fun p => .attempt p.1 (some p.2)) := by
  have h : Reads (.n .primary) Closes lead false t o := h
  have h' : Reads (.n .primary) Closes lead' isOpen u o' := h'
  have hlast := ReadsRest.cons h' .nil (by decide) (fun _ hr => hr)
    (fun hmem => absurd hmem List.not_mem_nil) (fun _ => ⟨_, rfl, by decide⟩)
  rw [List.append_nil] at hlast
  have hbody := ReadsRest.cons h (hlast.keyword (k := .kwCatch) (by decide)) (by decide)
    (fun _ _ => Text.closes_blank (by decide)) (fun _ => rfl) (fun _ => ⟨_, rfl, by decide⟩)
  have hall := ReadsAll.keyword (k := .kwTry) hbody (by decide)
  simp only [List.append_assoc]
  cases o <;> cases o' <;> exact Reads.node .attemptCatch hall rfl (.inl (by decide))

theorem reads_label {name : Text} (hname : name.isPlainName = true)
    (h : ReadsAt 13 false isOpen t o) :
    ReadsAt 13 false isOpen ("label $" ++ name ++ " | " ++ t) (o.map (.label name)) := by
  have hbar := (ReadsRest.lastQuery h).sign (k := .bar) (by decide)
  have hall := ReadsAll.keyword (k := .kwLabel)
    (hbar.varName hname fun _ _ => Text.closes_blank (by decide)) (by decide)
  simp only [List.append_assoc]
  cases o <;> exact Reads.node .label hall rfl (.inr rfl)

theorem reads_break {name : Text} (hname : name.isPlainName = true) :
    ReadsAt 2 false false ("break $" ++ name) (some (.breakTo name)) := by
  have hvariable := ReadsRest.nil.varName hname fun _ hr => hr
  rw [List.append_nil] at hvariable
  exact Reads.node .breakTo (.keyword (k := .kwBreak) hvariable (by decide)) rfl (.inl (by decide))

theorem reads_bind {name : Text} (hname : name.isPlainName = true)
    (h : ReadsAt 3 false isOpen t o) (h' : ReadsAt 13 false isOpen' u o') :
    ReadsAt 13 false isOpen' (t ++ " as $" ++ name ++ " | " ++ u)
      ((both o o').map fun p => .bind p.1 name p.2) := by
  have h : Reads (.n .suffixed) Closes false isOpen t o := h
  have hbar := (ReadsRest.lastQuery h').sign (k := .bar) (by decide)
  have has := (hbar.varName hname fun _ _ => Text.closes_blank (by decide)).keyword (k := .kwAs)
    (by decide)
  have hall := ReadsAll.cons h has (by decide) (fun _ _ => Text.closes_blank (by decide))
    (fun hmem => absurd hmem (by decide))
  simp only [List.append_assoc]
  cases o <;> cases o' <;> exact Reads.node .bind hall rfl (.inr rfl)

end Prefixed

/-! ### Folds -/

section Folds

variable {lead isOpen isOpen₁ isOpen₂ isOpen₃ : Bool} {source init update extract name : Text}
  {o o₁ o₂ o₃ : Option Query}

theorem closes_closeParen (r : Text) : Closes ((")" : Text) ++ r) :=
  Text.closes_of_mem (by decide) (by decide) (by decide)

/-- What a fold is about: its source and the name of each value. -/
theorem readsRest_source {ss : List Symbol} {t : Text} {os : Option (Symbol.Values ss)}
    (hname : name.isPlainName = true) (h : ReadsAt 3 lead isOpen source o)
    (rest : ReadsRest ss isOpen₁ t os) (ht : ∀ r, Closes r → Closes (t ++ r)) :
    ReadsRest (.n .suffixed :: .t .kwAs :: .t .varName :: ss)
      (lastOpen (.t .kwAs :: .t .varName :: ss) isOpen
        (lastOpen (.t .varName :: ss) false (lastOpen ss false isOpen₁)))
      (source ++ (" as $" ++ (name ++ t)))
      (both o (both (some (Lexeme.of .kwAs).text) (both (some (.scalar '$' :: name)) os))) := by
  have h : Reads (.n .suffixed) Closes lead isOpen source o := h
  exact ReadsRest.cons h ((rest.varName hname ht).keyword (k := .kwAs) (by decide)) (by decide)
    (fun _ _ => Text.closes_blank (by decide))
    (fun hmem => absurd (List.mem_singleton.mp hmem) (by decide)) (fun _ => ⟨_, rfl, by decide⟩)

theorem reads_reduce (hname : name.isPlainName = true) (h : ReadsAt 3 lead isOpen source o)
    (h₁ : ReadsAt 13 false isOpen₁ init o₁) (h₂ : ReadsAt 13 false isOpen₂ update o₂) :
    ReadsAt 2 false false
      ("reduce " ++ source ++ " as $" ++ name ++ " (" ++ init ++ "; " ++ update ++ ")")
      ((both o (both o₁ o₂)).map fun p => .reduce p.1 name p.2.1 p.2.2) := by
  have hupdate := ReadsRest.query h₂ (.lastBracket (k := .closeParen) (by decide))
    (fun r _ => closes_closeParen r) (by decide)
  have hinit := ReadsRest.query h₁ (hupdate.blank.bracket (k := .semicolon) (by decide))
    (fun _ _ => Text.closes_of_mem (by decide) (by decide) (by decide)) (by decide)
  have hall := ReadsAll.keyword (k := .kwReduce) (readsRest_source hname h
    (hinit.bracket (k := .openParen) (by decide)).blank
    fun _ _ => Text.closes_blank (by decide)) (by decide)
  simp only [List.append_assoc]
  revert hall
  cases o <;> cases o₁ <;> cases o₂ <;>
    exact fun hall => Reads.node .reduce hall rfl (.inl (by decide))

theorem reads_foreach (hname : name.isPlainName = true) (h : ReadsAt 3 lead isOpen source o)
    (h₁ : ReadsAt 13 false isOpen₁ init o₁) (h₂ : ReadsAt 13 false isOpen₂ update o₂) :
    ReadsAt 2 false false
      ("foreach " ++ source ++ " as $" ++ name ++ " (" ++ init ++ "; " ++ update ++ ")")
      ((both o (both o₁ o₂)).map fun p => .foreach p.1 name p.2.1 p.2.2 none) := by
  have hupdate := ReadsRest.query h₂ (.lastBracket (k := .closeParen) (by decide))
    (fun r _ => closes_closeParen r) (by decide)
  have hinit := ReadsRest.query h₁ (hupdate.blank.bracket (k := .semicolon) (by decide))
    (fun _ _ => Text.closes_of_mem (by decide) (by decide) (by decide)) (by decide)
  have hall := ReadsAll.keyword (k := .kwForeach) (readsRest_source hname h
    (hinit.bracket (k := .openParen) (by decide)).blank
    fun _ _ => Text.closes_blank (by decide)) (by decide)
  simp only [List.append_assoc]
  revert hall
  cases o <;> cases o₁ <;> cases o₂ <;>
    exact fun hall => Reads.node .foreach hall rfl (.inl (by decide))

theorem reads_foreachExtract (hname : name.isPlainName = true)
    (h : ReadsAt 3 lead isOpen source o) (h₁ : ReadsAt 13 false isOpen₁ init o₁)
    (h₂ : ReadsAt 13 false isOpen₂ update o₂) (h₃ : ReadsAt 13 false isOpen₃ extract o₃) :
    ReadsAt 2 false false
      ("foreach " ++ source ++ " as $" ++ name ++ " (" ++ init ++ "; " ++ update ++
        ("; " ++ extract) ++ ")")
      ((both o (both o₁ (both o₂ o₃))).map fun p =>
        .foreach p.1 name p.2.1 p.2.2.1 (some p.2.2.2)) := by
  have hextract := ReadsRest.query h₃ (.lastBracket (k := .closeParen) (by decide))
    (fun r _ => closes_closeParen r) (by decide)
  have hupdate := ReadsRest.query h₂ (hextract.blank.bracket (k := .semicolon) (by decide))
    (fun _ _ => Text.closes_of_mem (by decide) (by decide) (by decide)) (by decide)
  have hinit := ReadsRest.query h₁ (hupdate.blank.bracket (k := .semicolon) (by decide))
    (fun _ _ => Text.closes_of_mem (by decide) (by decide) (by decide)) (by decide)
  have hall := ReadsAll.keyword (k := .kwForeach) (readsRest_source hname h
    (hinit.bracket (k := .openParen) (by decide)).blank
    fun _ _ => Text.closes_blank (by decide)) (by decide)
  simp only [List.append_assoc]
  revert hall
  cases o <;> cases o₁ <;> cases o₂ <;> cases o₃ <;>
    exact fun hall => Reads.node .foreachExtract hall rfl (.inl (by decide))

end Folds

/-! ### Conditionals -/

section Conditionals

variable {isOpen isOpen₁ isOpen₂ : Bool} {test branch otherwise : Text} {o o₁ o₂ : Option Query}
  {i : (Query × Query) × Option (Query × Query)}
  {items : List ((Query × Query) × Option (Query × Query))}

/-- The test and the branch of a conditional before what comes next. -/
theorem ReadsAll.cond {ss : List Symbol} {t : Text} {os : Option (Symbol.Values ss)}
    (h : ReadsAt 13 false isOpen test o) (h₁ : ReadsAt 13 false isOpen₁ branch o₁)
    (rest : ReadsRest ss isOpen₂ t os) (ht : ∀ r, Closes r → Closes (t ++ r))
    (hcatch : .kwCatch ∉ Symbol.heads [] ss) :
    ReadsAll (.t .kwIf :: .n .pipe :: .t .kwThen :: .n .pipe :: ss) false
      (lastOpen (.n .pipe :: .t .kwThen :: .n .pipe :: ss) false
        (lastOpen (.t .kwThen :: .n .pipe :: ss) isOpen
          (lastOpen (.n .pipe :: ss) false (lastOpen ss isOpen₁ isOpen₂))))
      ("if " ++ (test ++ (" then " ++ (branch ++ t))))
      (both (some (Lexeme.of .kwIf).text)
        (both o (both (some (Lexeme.of .kwThen).text) (both o₁ os)))) := by
  have hbranch := (ReadsRest.query h₁ rest ht hcatch).keyword (k := .kwThen) (by decide)
  have hall := ReadsAll.keyword (k := .kwIf) (ReadsRest.query h hbranch
    (fun _ _ => Text.closes_blank (by decide))
    (fun hmem => absurd (List.mem_singleton.mp hmem) (by decide))) (by decide)
  exact hall

/-- The end of a conditional. -/
theorem readsRest_end :
    ReadsRest [.t .kwEnd] false " end" (some ((Lexeme.of .kwEnd).text, ())) :=
  .lastKeyword (by decide)

/-- The last resort of a conditional with its end. -/
theorem readsRest_else (h : ReadsAt 13 false isOpen otherwise o) :
    ReadsRest [.t .kwElse, .n .pipe, .t .kwEnd] false (" else " ++ (otherwise ++ " end"))
      (both (some (Lexeme.of .kwElse).text) (both o (some ((Lexeme.of .kwEnd).text, ())))) :=
  (ReadsRest.query h readsRest_end (fun _ _ => Text.closes_blank (by decide)) (by decide)).keyword
    (k := .kwElse) (by decide)

/-- A further test with its branch. -/
theorem reads_elif (h : ReadsAt 13 false isOpen test o) (h₁ : ReadsAt 13 false isOpen₁ branch o₁) :
    Reads (.n .elif) Closes false isOpen₁ (" elif " ++ test ++ " then " ++ branch) (both o o₁) := by
  have hbranch := (ReadsRest.lastQuery h₁).keyword (k := .kwThen) (by decide)
  have hall := ReadsAll.keyword (k := .kwElif) (ReadsRest.query h hbranch
    (fun _ _ => Text.closes_blank (by decide)) (by decide)) (by decide)
  simp only [List.append_assoc]
  refine Reads.blank
    (t := (Lexeme.of .kwElif).text ++ .scalar ' ' :: (test ++ ((" then " : Text) ++ branch))) ?_
  cases o <;> cases o₁ <;> exact Reads.node .elifBranch hall rfl (.inl (by decide))

/-- The text of a further test with its branch. -/
def Query.printElif (p : Query × Query) : Text :=
  " elif " ++ p.1.print ++ " then " ++ p.2.print

/-- The further tests of a conditional. -/
theorem reads_elifs
    (h : ∀ j ∈ i :: items, Reads (.n .elif) Closes false true (Query.printElif j.1) j.2) :
    Reads (.n .elifs) Closes false true ((i :: items).flatMap fun j => Query.printElif j.1)
      (every ((i :: items).map Prod.snd)) := by
  refine every_cons (P := fun t o => Reads (.n .elifs) Closes false true t o)
    (f := Query.printElif) ?_ ?_
  · have hall := (h i List.mem_cons_self).alone (by decide)
    revert hall
    cases i.2 <;> exact fun hall => Reads.node .elifsOne hall rfl (.inl (by decide))
  · intro j hj t o hmore
    have hlast := ReadsRest.cons (h j (List.mem_cons_of_mem i hj)) .nil (by decide) (fun _ hr => hr)
      (fun hmem => absurd hmem List.not_mem_nil) (by simp)
    rw [List.append_nil] at hlast
    have hall := ReadsAll.cons hmore hlast (by decide) (fun _ _ => Text.closes_blank (by decide))
      (fun hmem => absurd hmem (by decide))
    revert hall
    cases o <;> cases j.2 <;> exact fun hall => Reads.node .elifsMore hall rfl (.inl (by decide))

theorem reads_condThen (h : ReadsAt 13 false isOpen test o)
    (h₁ : ReadsAt 13 false isOpen₁ branch o₁) :
    ReadsAt 2 false false ("if " ++ test ++ " then " ++ branch ++ " end")
      ((both o o₁).map fun p => .cond p.1 p.2 [] none) := by
  have hall := ReadsAll.cond h h₁ readsRest_end (fun _ _ => Text.closes_blank (by decide)) (by decide)
  simp only [List.append_assoc]
  cases o <;> cases o₁ <;> exact Reads.node .condThen hall rfl (.inl (by decide))

theorem reads_condElse (h : ReadsAt 13 false isOpen test o)
    (h₁ : ReadsAt 13 false isOpen₁ branch o₁) (h₂ : ReadsAt 13 false isOpen₂ otherwise o₂) :
    ReadsAt 2 false false
      ("if " ++ test ++ " then " ++ branch ++ (" else " ++ otherwise) ++ " end")
      ((both o (both o₁ o₂)).map fun p => .cond p.1 p.2.1 [] (some p.2.2)) := by
  have hall := ReadsAll.cond h h₁ (readsRest_else h₂) (fun _ _ => Text.closes_blank (by decide))
    (by decide)
  simp only [List.append_assoc]
  cases o <;> cases o₁ <;> cases o₂ <;> exact Reads.node .condElse hall rfl (.inl (by decide))

theorem reads_condElif (h : ReadsAt 13 false isOpen test o)
    (h₁ : ReadsAt 13 false isOpen₁ branch o₁)
    (hitems : ∀ j ∈ i :: items, Reads (.n .elif) Closes false true (Query.printElif j.1) j.2) :
    ReadsAt 2 false false
      ("if " ++ test ++ " then " ++ branch ++
        ((i :: items).flatMap fun j => Query.printElif j.1) ++ " end")
      ((both o (both o₁ (every ((i :: items).map Prod.snd)))).map fun p =>
        .cond p.1 p.2.1 p.2.2 none) := by
  have hrest := ReadsRest.cons (reads_elifs hitems) readsRest_end (by decide)
    (fun _ _ => Text.closes_blank (by decide)) (fun hmem => absurd hmem (by decide)) (by simp)
  have hall := ReadsAll.cond h h₁ hrest (fun _ _ => Text.closes_blank (by decide)) (by decide)
  simp only [List.append_assoc]
  revert hall
  generalize every ((i :: items).map Prod.snd) = others
  cases o <;> cases o₁ <;> cases others <;>
    exact fun hall => Reads.node .condElif hall rfl (.inl (by decide))

theorem reads_condElifElse (h : ReadsAt 13 false isOpen test o)
    (h₁ : ReadsAt 13 false isOpen₁ branch o₁) (h₂ : ReadsAt 13 false isOpen₂ otherwise o₂)
    (hitems : ∀ j ∈ i :: items, Reads (.n .elif) Closes false true (Query.printElif j.1) j.2) :
    ReadsAt 2 false false
      ("if " ++ test ++ " then " ++ branch ++
        ((i :: items).flatMap fun j => Query.printElif j.1) ++ (" else " ++ otherwise) ++ " end")
      ((both o (both o₁ (both (every ((i :: items).map Prod.snd)) o₂))).map fun p =>
        .cond p.1 p.2.1 p.2.2.1 (some p.2.2.2)) := by
  have hrest := ReadsRest.cons (reads_elifs hitems) (readsRest_else h₂) (by decide)
    (fun _ _ => Text.closes_blank (by decide)) (fun hmem => absurd hmem (by decide)) (by simp)
  have hall := ReadsAll.cond h h₁ hrest (fun _ _ => Text.closes_blank (by decide)) (by decide)
  simp only [List.append_assoc]
  revert hall
  generalize every ((i :: items).map Prod.snd) = others
  cases o <;> cases o₁ <;> cases others <;> cases o₂ <;>
    exact fun hall => Reads.node .condElifElse hall rfl (.inl (by decide))

end Conditionals

/-! ### Suffixes -/

/-- The text is read as a suffix of whatever term comes before it. -/
def Suffixes (u : Text) (os : Option Query) : Prop :=
  ∀ {lead isOpen : Bool} {t : Text} {o : Option Query}, ReadsAt 3 lead isOpen t o →
    ReadsAt 3 lead false (t ++ u) ((both o os).map fun p => .chain p.1 p.2)

section Suffixes

variable {isOpen isOpen' : Bool} {start stop : Text} {o o' : Option Query}

theorem ReadsAll.suffix {ss : List Symbol} {lead : Bool} {t u : Text}
    {os : Option (Symbol.Values ss)} (h : ReadsAt 3 lead isOpen t o)
    (rest : ReadsRest ss isOpen' u os) :
    ReadsAll (.n .suffixed :: .t .openBracket :: ss) lead (lastOpen ss false isOpen')
      (t ++ ("[" ++ u)) (both o (both (some (Lexeme.of .openBracket).text) os)) := by
  have h : Reads (.n .suffixed) Closes lead isOpen t o := h
  exact ReadsAll.cons h (rest.bracket (k := .openBracket) (by decide)) (by decide)
    (fun _ _ => Text.closes_of_mem (by decide) (by decide) (by decide))
    (fun hmem => absurd (List.mem_singleton.mp hmem) (by decide))

theorem closes_closeBracket (r : Text) : Closes (("]" : Text) ++ r) :=
  Text.closes_of_mem (by decide) (by decide) (by decide)

theorem suffixes_iterate : Suffixes "[]" (some .iterate) := by
  intro lead isOpen t o h
  have hall := ReadsAll.suffix h (.lastBracket (k := .closeBracket) (by decide))
  cases o <;> exact Reads.node .suffixIterate hall rfl (.inl (by decide))

theorem suffixes_index (h' : ReadsAt 13 false isOpen' start o') :
    Suffixes ("[" ++ start ++ "]") (o'.map .at) := by
  intro lead isOpen t o h
  have hall := ReadsAll.suffix h (ReadsRest.query h' (.lastBracket (k := .closeBracket) (by decide))
    (fun r _ => closes_closeBracket r) (by decide))
  simp only [List.append_assoc]
  cases o <;> cases o' <;> exact Reads.node .suffixIndex hall rfl (.inl (by decide))

/-- A colon closes the bound before it unless another colon comes after it. -/
theorem closes_colon {t : Text} (h : t.head? ≠ some (.scalar ':')) : Closes (.scalar ':' :: t) :=
  ⟨by decide, fun _ => h, fun heq => absurd heq (by decide)⟩

theorem suffixes_slice (h₁ : ReadsAt 13 false isOpen start o) (h₂ : ReadsAt 13 false isOpen' stop o')
    (hstop : ∀ r, (stop ++ r).head? ≠ some (.scalar ':')) :
    Suffixes ("[" ++ start ++ ":" ++ stop ++ "]")
      ((both o o').map fun p => .slice (some p.1) (some p.2)) := by
  intro lead isOpen₀ t o₀ h
  have hlast := ReadsRest.query h₂ (.lastBracket (k := .closeBracket) (by decide))
    (fun r _ => closes_closeBracket r) (by decide)
  have hcolon (r : Text) : Closes ((Lexeme.of .colon).text ++ (stop ++ "]") ++ r) := by
    rw [List.append_assoc, List.append_assoc]
    exact closes_colon (hstop _)
  have hfirst := ReadsRest.query h₁ (hlast.bracket (k := .colon) (by decide)) (fun r _ => hcolon r)
    (by decide)
  have hall := ReadsAll.suffix h hfirst
  simp only [List.append_assoc]
  revert hall
  cases o₀ <;> cases o <;> cases o' <;>
    exact fun hall => Reads.node .suffixSlice hall rfl (.inl (by decide))

theorem suffixes_sliceFrom (h₁ : ReadsAt 13 false isOpen start o) :
    Suffixes ("[" ++ start ++ ":]") (o.map fun q => .slice (some q) none) := by
  intro lead isOpen₀ t o₀ h
  have hclose : ReadsRest [.t .closeBracket] false "]" (some ((Lexeme.of .closeBracket).text, ())) :=
    .lastBracket (by decide)
  have hfirst := ReadsRest.query h₁ (hclose.bracket (k := .colon) (by decide))
    (fun _ _ => closes_colon (show some (CodePoint.scalar ']') ≠ _ by decide)) (by decide)
  have hall := ReadsAll.suffix h hfirst
  simp only [List.append_assoc]
  revert hall
  cases o₀ <;> cases o <;>
    exact fun hall => Reads.node .suffixSliceFrom hall rfl (.inl (by decide))

theorem suffixes_sliceTo (h₂ : ReadsAt 13 false isOpen stop o) :
    Suffixes ("[:" ++ stop ++ "]") (o.map fun q => .slice none (some q)) := by
  intro lead isOpen₀ t o₀ h
  have hlast := ReadsRest.query h₂ (.lastBracket (k := .closeBracket) (by decide))
    (fun r _ => closes_closeBracket r) (by decide)
  have hall := ReadsAll.suffix h (hlast.bracket (k := .colon) (by decide))
  simp only [List.append_assoc]
  revert hall
  cases o₀ <;> cases o <;>
    exact fun hall => Reads.node .suffixSliceTo hall rfl (.inl (by decide))

theorem suffixes_sliceAll : Suffixes "[:]" (some (.slice none none)) := by
  intro lead isOpen₀ t o₀ h
  have hclose : ReadsRest [.t .closeBracket] false "]" (some ((Lexeme.of .closeBracket).text, ())) :=
    .lastBracket (by decide)
  have hall := ReadsAll.suffix h (hclose.bracket (k := .colon) (by decide))
  cases o₀ <;> exact Reads.node .suffixSliceAll hall rfl (.inl (by decide))

end Suffixes

end JqFlow
