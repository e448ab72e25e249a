import JqFlow.Graph.Script

/-!
# Reading quoted texts back

A text that is quoted for a script can be read back, but for the newlines of a text that would be
taken for one with a variable in it: such a text stands between single quotes, which hold no
newlines, so they become spaces.

## Main definitions

- `Script.kept`: what a script keeps of a text
- `Script.unquote`: the text that stands between quotes

## Main statements

- `Script.unquote_quote`: reading a quoted text gives what is kept of it
- `Script.kept_eq_of_quote_eq`: texts that are quoted alike are the same, as far as they are kept

## Design notes

Between single quotes a backslash stands for itself unless an apostrophe follows. No backslash of
the text is followed by an apostrophe there, as each apostrophe has a backslash of its own.
-/

namespace JqFlow
namespace Script

/-- A code point that can stand on one line. -/
def flat : CodePoint → CodePoint
  | .scalar '\n' => .scalar ' '
  | c => c

/-- What a script keeps of a text: newlines become spaces if the text would be taken for one with a
variable in it. -/
def kept (t : Text) : Text :=
  if hasSubstitution t then t.map flat else t

/-- Reads what stands between double quotes. -/
def decodeDouble : Text → Text
  | .scalar '\\' :: .scalar 'n' :: t => .scalar '\n' :: decodeDouble t
  | .scalar '\\' :: c :: t => c :: decodeDouble t
  | c :: t => c :: decodeDouble t
  | [] => []

/-- Reads what stands between single quotes. -/
def decodeSingle : Text → Text
  | .scalar '\\' :: .scalar '\'' :: t => .scalar '\'' :: decodeSingle t
  | c :: t => c :: decodeSingle t
  | [] => []

/-- The text that stands between quotes. -/
def unquote : Text → Text
  | .scalar '\'' :: t => decodeSingle t.dropLast
  | _ :: t => decodeDouble t.dropLast
  | [] => []

/-! ### Double quotes -/

theorem decodeDouble_cons {c : CodePoint} (h : c ≠ '\\') (t : Text) :
    decodeDouble (c :: t) = c :: decodeDouble t := by
  rw [decodeDouble]
  · intro _ hc
    exact absurd hc h
  · intro _ _ hc
    exact absurd hc h

/-- The code points that are escaped between double quotes, with what is written after the
backslash. -/
def doubleEscapes : List (CodePoint × CodePoint) :=
  [(.scalar '\\', .scalar '\\'), (.scalar '"', .scalar '"'), (.scalar '\n', .scalar 'n')]

theorem encodeDouble_cases (c : CodePoint) :
    (c ≠ '\\' ∧ c ≠ '"' ∧ c ≠ '\n' ∧ encodeDouble c = [c]) ∨
      ∃ x, (c, x) ∈ doubleEscapes ∧ encodeDouble c = [.scalar '\\', x] := by
  by_cases hbackslash : c = '\\'
  · exact .inr ⟨.scalar '\\', by simp [doubleEscapes, hbackslash], by rw [hbackslash]; rfl⟩
  by_cases hquote : c = '"'
  · exact .inr ⟨.scalar '"', by simp [doubleEscapes, hquote], by rw [hquote]; rfl⟩
  by_cases hnewline : c = '\n'
  · exact .inr ⟨.scalar 'n', by simp [doubleEscapes, hnewline], by rw [hnewline]; rfl⟩
  · refine .inl ⟨hbackslash, hquote, hnewline, ?_⟩
    rw [encodeDouble]
    · exact fun hc => hbackslash hc
    · exact fun hc => hquote hc
    · exact fun hc => hnewline hc

theorem decodeDouble_escape {c x : CodePoint} (h : (c, x) ∈ doubleEscapes) (t : Text) :
    decodeDouble (.scalar '\\' :: x :: t) = c :: decodeDouble t := by
  simp only [doubleEscapes, List.mem_cons, Prod.mk.injEq, List.not_mem_nil, or_false] at h
  rcases h with ⟨rfl, rfl⟩ | ⟨rfl, rfl⟩ | ⟨rfl, rfl⟩ <;> rfl

theorem decodeDouble_encode (t : Text) : decodeDouble (t.replaceEach encodeDouble) = t := by
  induction t with
  | nil => rfl
  | cons c t ih =>
    rw [Text.replaceEach] at ih ⊢
    rw [List.flatMap_cons]
    rcases encodeDouble_cases c with ⟨hbackslash, -, -, hself⟩ | ⟨x, hx, hescape⟩
    · rw [hself, List.singleton_append, decodeDouble_cons hbackslash, ih]
    · rw [hescape, List.cons_append, List.singleton_append, decodeDouble_escape hx, ih]

/-! ### Single quotes -/

theorem encodeSingle_eq {c : CodePoint} (h : c ≠ '\'') : encodeSingle c = [flat c] := by
  by_cases hnewline : c = '\n'
  · subst hnewline
    rfl
  · rw [encodeSingle, flat]
    · exact fun hc => hnewline hc
    · exact fun hc => hnewline hc
    · exact fun hc => h hc

theorem flat_ne {c d : CodePoint} (h : c ≠ d) (hblank : d ≠ .scalar ' ') : flat c ≠ d := by
  by_cases hnewline : c = '\n'
  · rw [hnewline]
    exact hblank.symm
  · rw [flat]
    · exact h
    · exact fun hc => hnewline hc

/-- An apostrophe between single quotes never comes first. -/
theorem head_encode_ne (t : Text) (rest : Text) :
    t.replaceEach encodeSingle ≠ CodePoint.scalar '\'' :: rest := by
  cases t with
  | nil => exact List.cons_ne_nil _ _ |>.symm
  | cons c t =>
    rw [Text.replaceEach, List.flatMap_cons]
    by_cases hquote : c = '\''
    · subst hquote
      intro h
      exact absurd (List.head_eq_of_cons_eq h) (by decide)
    · rw [encodeSingle_eq hquote]
      exact fun h => flat_ne hquote (by decide) (List.head_eq_of_cons_eq h)

theorem decodeSingle_cons (c : CodePoint) {t : Text}
    (h : ∀ rest, t ≠ CodePoint.scalar '\'' :: rest) :
    decodeSingle (c :: t) = c :: decodeSingle t := by
  rw [decodeSingle]
  intro rest _ ht
  exact h rest ht

theorem decodeSingle_encode (t : Text) :
    decodeSingle (t.replaceEach encodeSingle) = t.map flat := by
  induction t with
  | nil => rfl
  | cons c t ih =>
    by_cases hquote : c = '\''
    · subst hquote
      exact congrArg _ ih
    · have hcons : Text.replaceEach encodeSingle (c :: t) =
          flat c :: Text.replaceEach encodeSingle t := by
        rw [Text.replaceEach, List.flatMap_cons, encodeSingle_eq hquote]
        rfl
      -- A backslash is not read with what comes after it, which is no apostrophe.
      rw [hcons, decodeSingle_cons _ (head_encode_ne t), ih, List.map_cons]

/-! ### Quotes of either kind -/

/-- Reading a quoted text gives what is kept of it. -/
theorem unquote_quote (t : Text) : unquote (quote t) = kept t := by
  rw [quote, kept]
  split
  · have hquoted : unquote ("'" ++ t.replaceEach encodeSingle ++ "'") =
        decodeSingle (t.replaceEach encodeSingle ++ "'").dropLast := rfl
    rw [hquoted]
    show decodeSingle (t.replaceEach encodeSingle ++ [CodePoint.scalar '\'']).dropLast = _
    rw [List.dropLast_concat, decodeSingle_encode]
  · have hquoted : unquote ("\"" ++ t.replaceEach encodeDouble ++ "\"") =
        decodeDouble (t.replaceEach encodeDouble ++ "\"").dropLast := rfl
    rw [hquoted]
    show decodeDouble (t.replaceEach encodeDouble ++ [CodePoint.scalar '"']).dropLast = _
    rw [List.dropLast_concat, decodeDouble_encode]

example : quote "$\x7bx\x7d\n'\\" = "'$\x7bx\x7d \\'\\'" := by decide

/-- Texts that are quoted alike are the same, as far as they are kept. -/
theorem kept_eq_of_quote_eq {s t : Text} (h : quote s = quote t) : kept s = kept t := by
  rw [← unquote_quote, h, unquote_quote]

/-- A quoted text ends in a quotation mark. -/
theorem getLast?_quote (t : Text) :
    (quote t).getLast? = some (.scalar '\'') ∨ (quote t).getLast? = some (.scalar '"') := by
  rw [quote]
  split
  · exact .inl List.getLast?_concat
  · exact .inr List.getLast?_concat

/-! ### Quoted texts stand on one line -/

/-- Is a text without newlines? -/
def OneLine (t : Text) : Prop :=
  CodePoint.scalar '\n' ∉ t

instance (t : Text) : Decidable (OneLine t) :=
  inferInstanceAs (Decidable (CodePoint.scalar '\n' ∉ t))

theorem OneLine.append {s t : Text} (hs : OneLine s) (ht : OneLine t) : OneLine (s ++ t) :=
  fun h => (List.mem_append.mp h).elim hs ht

theorem oneLine_encodeSingle (c : CodePoint) : OneLine (encodeSingle c) := by
  by_cases hquote : c = '\''
  · subst hquote
    decide
  by_cases hnewline : c = '\n'
  · subst hnewline
    decide
  · rw [encodeSingle]
    · exact fun h => hnewline (List.mem_singleton.mp h).symm
    · exact fun hc => hnewline hc
    · exact fun hc => hquote hc

theorem oneLine_encodeDouble (c : CodePoint) : OneLine (encodeDouble c) := by
  have hescaped : ∀ p ∈ doubleEscapes, OneLine [.scalar '\\', p.2] := by decide
  rcases encodeDouble_cases c with ⟨-, -, hnewline, hself⟩ | ⟨x, hx, hescape⟩
  · rw [hself]
    exact fun h => hnewline (List.mem_singleton.mp h).symm
  · rw [hescape]
    exact hescaped _ hx

theorem oneLine_between {f : CodePoint → Text} (hf : ∀ c, OneLine (f c)) {mark : Text}
    (hmark : OneLine mark) (t : Text) : OneLine (mark ++ t.replaceEach f ++ mark) := by
  refine (hmark.append ?_).append hmark
  intro h
  obtain ⟨c, -, hc⟩ := List.mem_flatMap.mp h
  exact hf c hc

/-- A quoted text stands on one line. -/
theorem oneLine_quote (t : Text) : OneLine (quote t) := by
  rw [quote]
  split
  · exact oneLine_between oneLine_encodeSingle (by decide) t
  · exact oneLine_between oneLine_encodeDouble (by decide) t

end Script
end JqFlow
