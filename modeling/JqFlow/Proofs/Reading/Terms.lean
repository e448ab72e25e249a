import JqFlow.Proofs.Reading.Refusals

/-!
# How terms are read

The terms without parts, and those that are in brackets.

## Main statements

- `ReadsRest.bracket`, `ReadsRest.keyword`, `ReadsRest.query` and the like: the ways in which a
  production goes on
- `reads_name`, `reads_field`, `reads_group` and the like: one for each kind of term
-/

namespace JqFlow

open Text (Closes)

namespace ReadsRest

variable {ss : List Symbol} {lead isOpen isOpen' : Bool} {t t' : Text} {k : Terminal}
  {os : Option (Symbol.Values ss)}

/-- A bracket or a mark before the other symbols of a production. -/
theorem bracket (rest : ReadsRest ss isOpen t os) (hk : k ∈ Lexeme.brackets) :
    ReadsRest (.t k :: ss) (lastOpen ss false isOpen) ((Lexeme.of k).text ++ t)
      (both (some (Lexeme.of k).text) os) := by
  refine ReadsRest.word rest (fun r _ => Lexeme.stands_bracket hk (t ++ r)) ?_
  rintro rfl
  exact absurd hk (by decide)

/-- A bracket or a mark at the end of a production. -/
theorem lastBracket (hk : k ∈ Lexeme.brackets) :
    ReadsRest [.t k] false (Lexeme.of k).text (some ((Lexeme.of k).text, ())) := by
  have hbracket := bracket .nil hk
  rwa [List.append_nil] at hbracket

/-- A keyword between blanks before the other symbols of a production. -/
theorem keyword (rest : ReadsRest ss isOpen t os) (hk : k ∈ Terminal.keywords) :
    ReadsRest (.t k :: ss) (lastOpen ss false isOpen)
      (.scalar ' ' :: ((Lexeme.of k).text ++ .scalar ' ' :: t))
      (both (some (Lexeme.of k).text) os) := by
  refine ReadsRest.blank (rest.blank.word (l := Lexeme.of k) ?_ ?_)
  · exact fun r _ => Lexeme.stands_keyword hk Text.breaks_blank
  · rintro rfl
    exact absurd hk (by decide)

/-- A keyword at the end of a production. -/
theorem lastKeyword (hk : k ∈ Terminal.keywords) :
    ReadsRest [.t k] false (.scalar ' ' :: (Lexeme.of k).text)
      (some ((Lexeme.of k).text, ())) := by
  have hword := ReadsRest.nil.word (l := Lexeme.of k)
    (fun r hr => Lexeme.stands_keyword hk hr.breaks)
    (by
      rintro rfl
      exact absurd hk (by decide))
  rw [List.append_nil] at hword
  exact hword.blank

/-- A sign between blanks before the other symbols of a production. -/
theorem sign (rest : ReadsRest ss isOpen t os) (hk : k ∈ Terminal.signs) :
    ReadsRest (.t k :: ss) (lastOpen ss false isOpen)
      (.scalar ' ' :: ((Lexeme.of k).text ++ .scalar ' ' :: t))
      (both (some (Lexeme.of k).text) os) := by
  refine ReadsRest.blank (rest.blank.word (l := Lexeme.of k) ?_ ?_)
  · exact fun r _ => Lexeme.stands_sign hk _
  · rintro rfl
    exact absurd hk (by decide)

/-- A variable before the other symbols of a production. -/
theorem varName {name : Text} (rest : ReadsRest ss isOpen t os) (hname : name.isPlainName = true)
    (ht : ∀ r, Closes r → Closes (t ++ r)) :
    ReadsRest (.t .varName :: ss) (lastOpen ss false isOpen) (.scalar '$' :: name ++ t)
      (both (some (.scalar '$' :: name)) os) :=
  rest.word (l := ⟨.varName, .scalar '$' :: name⟩)
    (fun r hr => Lexeme.stands_varName hname (ht r hr).breaks) (by simp)

/-- A query before the other symbols of a production. -/
theorem query {o : Option Query} (h : ReadsAt 13 false isOpen t o)
    (rest : ReadsRest ss isOpen' t' os) (ht' : ∀ r, Closes r → Closes (t' ++ r))
    (hcatch : .kwCatch ∉ Symbol.heads [] ss) :
    ReadsRest (.n .pipe :: ss) (lastOpen ss isOpen isOpen') (t ++ t') (both o os) :=
  .cons (s := .n .pipe) h rest (by simp) ht' (fun hmem => absurd hmem hcatch) (by simp)

/-- A query at the end of a production. -/
theorem lastQuery {o : Option Query} (h : ReadsAt 13 false isOpen t o) :
    ReadsRest [.n .pipe] isOpen t (both o (some ())) := by
  have hquery := query h .nil (fun r hr => hr) List.not_mem_nil
  rwa [List.append_nil] at hquery

end ReadsRest

namespace ReadsAll

variable {ss : List Symbol} {isOpen : Bool} {t : Text} {k : Terminal} {os : Option (Symbol.Values ss)}

/-- A bracket at the beginning of a production. -/
theorem bracket (rest : ReadsRest ss isOpen t os) (hk : k ∈ Lexeme.brackets) :
    ReadsAll (.t k :: ss) false (lastOpen ss false isOpen) ((Lexeme.of k).text ++ t)
      (both (some (Lexeme.of k).text) os) := by
  have hident : k ≠ .ident := by
    rintro rfl
    exact absurd hk (by decide)
  have hword := ReadsAll.word (l := Lexeme.of k) rest
    (fun r _ => Lexeme.stands_bracket hk (t ++ r)) fun h => absurd h hident
  have hlabel : (Lexeme.of k).isLabel = false := by
    simp [Lexeme.isLabel, Lexeme.of, hident]
  rwa [hlabel] at hword

/-- A keyword with a blank after it at the beginning of a production. -/
theorem keyword (rest : ReadsRest ss isOpen t os) (hk : k ∈ Terminal.keywords) :
    ReadsAll (.t k :: ss) false (lastOpen ss false isOpen)
      ((Lexeme.of k).text ++ .scalar ' ' :: t) (both (some (Lexeme.of k).text) os) := by
  have hident : k ≠ .ident := by
    rintro rfl
    exact absurd hk (by decide)
  have hword := ReadsAll.word (l := Lexeme.of k) rest.blank
    (fun r _ => Lexeme.stands_keyword hk Text.breaks_blank) fun h => absurd h hident
  have hlabel : (Lexeme.of k).isLabel = false := by
    simp [Lexeme.isLabel, Lexeme.of, hident]
  rwa [hlabel] at hword

end ReadsAll

/-! ### Terms without parts -/

/-- A token that is all a production derives. -/
theorem ReadsAll.token {l : Lexeme} (hl : ∀ r, Closes r → l.Stands r)
    (hbarred : l.terminal = .ident → l.text ∉ barred) :
    ReadsAll [.t l.terminal] l.isLabel false l.text (some (l.text, ())) := by
  have hword := ReadsAll.word (l := l) .nil hl hbarred
  rwa [List.append_nil] at hword

theorem reads_identity : ReadsAt 2 false false "." (some .identity) := by
  have hstands (r : Text) (hr : Closes r) : (Lexeme.of .dot).Stands r := by
    refine Lexeme.stands_dot (hr.breaks.head_ne (by decide)) ?_
    have hplain := Spelling.plainName?_append hr.breaks []
    simpa [Spelling.plainName?] using hplain
  exact Reads.node .identity (.token hstands (by decide)) rfl (.inl (by decide))

theorem reads_recurse : ReadsAt 2 false false ".." (some .recurse) := by
  have hstands (r : Text) (_ : Closes r) : (Lexeme.of .dotDot).Stands r :=
    Lexeme.stands_bracket (by decide) r
  exact Reads.node .recurse (.token hstands (by decide)) rfl (.inl (by decide))

theorem reads_name {name : Text} (h : Spelling.name? name = some name) (hbarred : name ∉ barred) :
    ReadsAt 2 (name = "label") false name (some (.ofName name)) := by
  have hstands (r : Text) (hr : Closes r) : Lexeme.Stands ⟨.ident, name⟩ r :=
    Lexeme.stands_name h hr.breaks
  exact Reads.node .bareName (.token hstands fun _ => hbarred) rfl (.inl (by decide))

theorem reads_number {text : Text} (h : Spelling.number? text = some text) :
    ReadsAt 2 false false text (some (.number text)) := by
  have hstands (r : Text) (hr : Closes r) : Lexeme.Stands ⟨.number, text⟩ r :=
    Lexeme.stands_number h hr.breaks
  exact Reads.node .number (.token hstands (by simp)) rfl (.inl (by decide))

theorem reads_literal {s t : Text} (h : Quoted.Encodes s t) :
    ReadsAt 2 false false ("\"" ++ t ++ "\"") (some (.string s)) := by
  have hstands (r : Text) (_ : Closes r) : Lexeme.Stands ⟨.string, "\"" ++ t ++ "\""⟩ r :=
    Lexeme.stands_literal h r
  have hmeans : Query.string s = .string (Quoted.unquote ("\"" ++ t ++ "\"")) := by
    rw [Quoted.unquote_between, h.decode_eq]
  rw [hmeans]
  exact Reads.node .string (.token hstands (by simp)) rfl (.inl (by decide))

theorem reads_string (text : Text) :
    ReadsAt 2 false false (Quoted.quote text) (some (.string text)) :=
  reads_literal (Quoted.encodes_encode text)

theorem reads_var {name : Text} (h : name.isPlainName = true) :
    ReadsAt 2 false false (.scalar '$' :: name) (some (.var name)) := by
  have hstands (r : Text) (hr : Closes r) : Lexeme.Stands ⟨.varName, .scalar '$' :: name⟩ r :=
    Lexeme.stands_varName h hr.breaks
  exact Reads.node .varRef (.token hstands (by simp)) rfl (.inl (by decide))

theorem reads_field {name : Text} (h : name.isPlainName = true) :
    ReadsAt 2 false false (.scalar '.' :: name) (some (.field name)) := by
  have hstands (r : Text) (hr : Closes r) : Lexeme.Stands ⟨.field, .scalar '.' :: name⟩ r :=
    Lexeme.stands_field h (hr.breaks.takeWhile_eq_nil (by decide))
  exact Reads.node .field (.token hstands (by simp)) rfl (.inl (by decide))

theorem reads_key (key : Text) :
    ReadsAt 2 false false (.scalar '.' :: Quoted.quote key) (some (.keyIndex key)) := by
  have hstands (r : Text) : (Lexeme.of .dot).Stands (Quoted.quote key ++ r) :=
    Lexeme.stands_dot (by simp [Quoted.quote, Text.ofString]) rfl
  have hrest := ReadsRest.nil.word (l := ⟨.string, Quoted.quote key⟩)
    (fun r _ => Lexeme.stands_string key r) (by simp)
  rw [List.append_nil] at hrest
  have hmeans : Query.keyIndex key = .keyIndex (Quoted.unquote (Quoted.quote key)) := by
    rw [Quoted.unquote_quote]
  rw [hmeans]
  exact Reads.node .quotedField (.word hrest (fun r _ => hstands r) (by decide)) rfl
    (.inl (by decide))

section Format

variable {name : Text}

/-- The name of a format as a token. -/
theorem stands_formatName (h : Spelling.format? name = some name) {r : Text} (hr : r.Breaks) :
    Lexeme.Stands ⟨.format, name⟩ r := by
  unfold Spelling.format? at h
  split at h
  · next rest =>
    simp only at h
    split at h
    · exact absurd h (by simp)
    · next hpart =>
      have htake : rest.takeWhile Spelling.isNamePart = rest := (List.cons.inj (Option.some.inj h)).2
      rw [htake] at hpart
      exact Lexeme.stands_format hpart
        (List.all_eq_true.mpr (List.takeWhile_eq_self_iff.mp htake)) hr
  · exact absurd h (by simp)

theorem reads_format (h : Spelling.format? name = some name) :
    ReadsAt 2 false false name (some (.format name none)) := by
  have hstands (r : Text) (hr : Closes r) : Lexeme.Stands ⟨.format, name⟩ r :=
    stands_formatName h hr.breaks
  exact Reads.node .format (.token hstands (by simp)) rfl (.inl (by decide))

theorem reads_formatString (h : Spelling.format? name = some name) (text : Text) :
    ReadsAt 2 false false (name ++ " " ++ Quoted.quote text) (some (.format name (some text))) := by
  have hrest := ReadsRest.nil.word (l := ⟨.string, Quoted.quote text⟩)
    (fun r _ => Lexeme.stands_string text r) (by simp)
  rw [List.append_nil] at hrest
  have hmeans : Query.format name (some text) =
      .format name (some (Quoted.unquote (Quoted.quote text))) := by
    rw [Quoted.unquote_quote]
  rw [hmeans, List.append_assoc]
  exact Reads.node .formatString (.word (l := ⟨.format, name⟩) hrest.blank
    (fun r _ => stands_formatName h Text.breaks_blank) (by simp)) rfl (.inl (by decide))

end Format

/-! ### Terms in brackets -/

section Brackets

variable {isOpen : Bool} {t : Text} {o : Option Query}

theorem reads_group (h : ReadsAt 13 false isOpen t o) :
    ReadsAt 2 false false ("(" ++ t ++ ")") (o.map .group) := by
  have hrest := ReadsRest.query h (.lastBracket (k := .closeParen) (by decide))
    (fun r _ => Text.closes_of_mem (by decide) (by decide) (by decide)) (by decide)
  rw [List.append_assoc]
  cases o <;> exact Reads.node .group (.bracket hrest (by decide)) rfl (.inl (by decide))

theorem reads_emptyArray : ReadsAt 2 false false "[]" (some (.array none)) :=
  Reads.node .arrayEmpty (.bracket (.lastBracket (by decide)) (by decide)) rfl (.inl (by decide))

theorem reads_array (h : ReadsAt 13 false isOpen t o) :
    ReadsAt 2 false false ("[" ++ t ++ "]") (o.map fun q => .array (some q)) := by
  have hrest := ReadsRest.query h (.lastBracket (k := .closeBracket) (by decide))
    (fun r _ => Text.closes_of_mem (by decide) (by decide) (by decide)) (by decide)
  rw [List.append_assoc]
  cases o <;> exact Reads.node .array (.bracket hrest (by decide)) rfl (.inl (by decide))

end Brackets

end JqFlow
