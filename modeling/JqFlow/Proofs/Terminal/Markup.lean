import JqFlow.Terminal.Screen
import Mathlib.Data.List.TakeDrop
import Mathlib.Data.List.TakeWhile

/-!
# Closing tags on a terminal

A terminal refuses markup with a closing tag that matches no open tag. Names are compared in their
normal form, and a word in small letters other than `green` never has the normal form `green`.

## Main statements

- `Markup.normalName_ne_green`: which words are no names of green
- `Markup.piecesFrom_closing`: what is before the first tag in a text
- `Screen.ofWidth_refusesUnmatched`: a terminal refuses closing tags that match no open one
-/

namespace JqFlow

/-! ### Words in small letters -/

/-- There are only so many small letters. -/
theorem CodePoint.exists_of_isSmallLetter {c : CodePoint} (h : c.isSmallLetter) :
    ∃ i : Fin 26, c = .scalar (Char.ofNat (97 + i)) := by
  cases c with
  | surrogate => cases h
  | scalar c =>
    have hbounds : (decide (97 ≤ c.val) && decide (c.val ≤ 122)) = true := h
    have hrange : 97 ≤ c.toNat ∧ c.toNat ≤ 122 := by
      simpa [UInt32.le_iff_toNat_le] using hbounds
    refine ⟨⟨c.toNat - 97, by omega⟩, ?_⟩
    have hsum : 97 + (c.toNat - 97) = c.toNat := by omega
    simp only [hsum, Char.ofNat_toNat]

/-- A small letter is no white space, is its own lower-case form, and means nothing in a tag. -/
theorem CodePoint.of_isSmallLetter {c : CodePoint} (h : c.isSmallLetter) :
    c.isBlank = false ∧ c.toLower = [c] ∧
      c ∉ [CodePoint.scalar 'Σ', .scalar '[', .scalar ']', .scalar '='] := by
  obtain ⟨i, rfl⟩ := exists_of_isSmallLetter h
  clear h
  revert i
  decide +kernel

namespace Text

variable {t : Text} (hletters : ∀ c ∈ t, c.isSmallLetter)

include hletters

theorem trim_of_isSmallLetter : Text.trim t = t := by
  have hblank (u : Text) (hu : ∀ c ∈ u, c.isSmallLetter) : u.dropWhile CodePoint.isBlank = u := by
    cases u with
    | nil => rfl
    | cons c u =>
      have hc := (CodePoint.of_isSmallLetter (hu c List.mem_cons_self)).1
      rw [List.dropWhile_cons, if_neg (by simp [hc])]
  rw [trim, trimStart, hblank t hletters, trimEnd,
    hblank t.reverse fun c hc => hletters c (List.mem_reverse.mp hc), List.reverse_reverse]

theorem words_of_isSmallLetter (hne : t ≠ []) : Text.words t = [t] := by
  rw [words, List.splitOnP_eq_singleton fun c hc => (CodePoint.of_isSmallLetter (hletters c hc)).1]
  simp [hne]

theorem toLower_of_isSmallLetter : Text.toLower t = t := by
  have hfrom (u : Text) (hu : ∀ c ∈ u, c.isSmallLetter) (afterCased : Bool) :
      toLowerFrom afterCased u = u := by
    induction u generalizing afterCased with
    | nil => rfl
    | cons c u ih =>
      obtain ⟨-, hlower, hnone⟩ := CodePoint.of_isSmallLetter (hu c List.mem_cons_self)
      have hsigma : ¬ c = .scalar 'Σ' := fun hc => hnone (hc ▸ List.mem_cons_self)
      have hrest := ih fun d hd => hu d (List.mem_cons_of_mem c hd)
      simp only [toLowerFrom, hsigma, false_and, if_false, hlower, hrest, List.singleton_append]
  exact hfrom t hletters false

end Text

namespace Markup

/-! ### Names -/

theorem mem_attributeNames {word a : Text} (h : Style.attribute? word = some a) :
    a ∈ Style.attributeNames := by
  rw [Style.attribute?] at h
  rcases Option.or_eq_some_iff.mp h with h | ⟨-, h⟩
  · have hshort : ∀ p ∈ Style.shortNames, p.2 ∈ Style.attributeNames := by decide
    obtain ⟨before, after, heq, -⟩ := List.lookup_eq_some_iff.mp h
    exact hshort (word, a) (by simp [heq])
  · exact List.mem_of_find?_eq_some h

/-- A style that is named by one word sets one attribute, or a colour of that name. -/
theorem ofWords_singleton {t : Text} (hlower : Text.toLower t = t) {s : Style}
    (h : Style.ofWords ⟨[], none, none, none⟩ [t] = .ok s) :
    (∃ a ∈ Style.attributeNames, s = ⟨[(a, true)], none, none, none⟩) ∨
      s = ⟨[], some t, none, none⟩ := by
  rw [Style.ofWords, hlower] at h
  split at h
  · cases h
  split at h
  · cases h
  split at h
  · cases h
  split at h
  · next a ha => exact .inl ⟨a, mem_attributeNames ha, (Except.ok.inj h).symm⟩
  · cases hcolour : Style.checkColour t with
    | error e =>
      rw [hcolour] at h
      cases h
    | ok =>
      rw [hcolour] at h
      exact .inr (Except.ok.inj h).symm

/-- A word in small letters is a name of green only if it is `green`. -/
theorem normalName_ne_green {t : Text} (hletters : ∀ c ∈ t, c.isSmallLetter) (hne : t ≠ [])
    (hgreen : t ≠ "green") : normalName t ≠ .ok "green" := by
  have hattributes : ∀ a ∈ Style.attributeNames,
      Style.name ⟨[(a, true)], none, none, none⟩ ≠ "green" := by decide
  have hcolour : Style.name ⟨[], some t, none, none⟩ = t := by
    have hname : Style.name ⟨[], some t, none, none⟩ = Text.join " " [t] := rfl
    rw [hname]
    simp [Text.join]
  have hlower := Text.toLower_of_isSmallLetter hletters
  intro h
  rw [normalName, Style.normalName, Text.trim_of_isSmallLetter hletters,
    Text.words_of_isSmallLetter hletters hne] at h
  split at h
  · exact absurd (Except.ok.inj h) (by decide)
  cases hstyle : Style.ofWords ⟨[], none, none, none⟩ [t] with
  | ok s =>
    rw [hstyle] at h
    have hname : s.name = "green" := Except.ok.inj h
    rcases ofWords_singleton hlower hstyle with ⟨a, ha, rfl⟩ | rfl
    · exact hattributes a ha hname
    · exact hgreen (hcolour.symm.trans hname)
  | error e =>
    rw [hstyle] at h
    cases e with
    | unknown => exact hgreen (hlower.symm.trans (Except.ok.inj h))
    | component f => cases h

/-- Whether it is a colour or not, `green` is its own normal form. -/
theorem normalName_green : normalName "green" = .ok "green" := by
  have hletters : ∀ c ∈ Text.ofString "green", c.isSmallLetter := by decide
  have hcolour : Style.checkColour "green" = .ok () ∨
      Style.checkColour "green" = .error .unknown := by
    rw [Style.checkColour]
    split
    · exact .inl rfl
    · exact .inr rfl
  rw [normalName, Style.normalName, Text.trim_of_isSmallLetter hletters, if_neg (by decide),
    Text.words_of_isSmallLetter hletters (by decide), Style.ofWords,
    Text.toLower_of_isSmallLetter hletters, if_neg (by decide), if_neg (by decide),
    if_neg (by decide)]
  have hattribute : Style.attribute? "green" = none := by decide
  rcases hcolour with hcolour | hcolour
  · simp only [hattribute, hcolour]
    rfl
  · simp only [hattribute, hcolour]
    rfl

/-! ### Tags -/

/-- Plain text joins with plain text. -/
theorem addPlain_addPlain {c : CodePoint} (t u : Text) (pieces : List Piece) :
    ∃ u', Piece.addPlain (t ++ [c]) (Piece.addPlain u pieces) = Piece.addPlain u' pieces := by
  cases pieces with
  | nil =>
    by_cases hu : u = []
    · exact ⟨t ++ [c], by simp [Piece.addPlain, hu]⟩
    · exact ⟨t ++ [c] ++ u, by simp [Piece.addPlain, hu]⟩
  | cons piece pieces =>
    cases piece with
    | plain v => exact ⟨t ++ [c] ++ u, by simp [Piece.addPlain]⟩
    | tag n inside =>
      by_cases hu : u = []
      · exact ⟨t ++ [c], by simp [Piece.addPlain, hu]⟩
      · exact ⟨t ++ [c] ++ u, by simp [Piece.addPlain, hu]⟩

/-- The tag that a name in small letters closes. -/
theorem tag?_closing {name : Text} (hletters : ∀ c ∈ name, c.isSmallLetter) (after : Text) :
    tag? ("/" ++ name ++ "]" ++ after) = some ("/" ++ name, after) := by
  have hinside : ∀ c ∈ name,
      (c ≠ CodePoint.scalar '[' && c ≠ CodePoint.scalar ']') = true := fun c hc => by
    obtain ⟨-, -, hnone⟩ := CodePoint.of_isSmallLetter (hletters c hc)
    simp only [List.mem_cons, not_or] at hnone
    simp [hnone.2.1, hnone.2.2.1]
  have hstart : Text.ofString "/" ++ name ++ Text.ofString "]" ++ after =
      .scalar '/' :: (name ++ .scalar ']' :: after) := by
    simp [Text.ofString]
  rw [hstart, tag?, if_pos (by decide), List.span_eq_takeWhile_dropWhile,
    List.takeWhile_append_of_pos hinside, List.dropWhile_append_of_pos hinside]
  simp [Text.ofString]

/-- Before the first tag in a text there is plain text, or nothing. -/
theorem piecesFrom_closing {before name : Text} (hbracket : .scalar '[' ∉ before)
    (hletters : ∀ c ∈ name, c.isSmallLetter) (after : Text) (fuel n : Nat)
    (hfuel : before.length < fuel) (hnone : before = [] → n = 0)
    (hlast : before.getLast? ≠ some (.scalar '\\')) :
    ∃ u rest, piecesFrom fuel n (before ++ ("[/" ++ name ++ "]" ++ after)) =
      Piece.addPlain u (.tag 0 ("/" ++ name) :: rest) := by
  -- Backslashes are held back until something else comes, so none may be left at the tag.
  induction before generalizing fuel n with
  | nil =>
    obtain ⟨fuel, rfl⟩ : ∃ m, fuel = m + 1 := ⟨fuel - 1, by simp at hfuel; omega⟩
    obtain rfl := hnone rfl
    have hstart : Text.ofString "[/" ++ name ++ Text.ofString "]" ++ after =
        .scalar '[' :: (Text.ofString "/" ++ name ++ Text.ofString "]" ++ after) := by
      simp [Text.ofString]
    refine ⟨[], piecesFrom fuel 0 after, ?_⟩
    rw [List.nil_append, hstart, piecesFrom, if_neg (by decide), if_pos rfl,
      tag?_closing hletters]
    rfl
  | cons c before ih =>
    obtain ⟨fuel, rfl⟩ : ∃ m, fuel = m + 1 := ⟨fuel - 1, by omega⟩
    have hlength : before.length < fuel := by simpa using hfuel
    have hrest : .scalar '[' ∉ before := fun hmem => hbracket (List.mem_cons_of_mem c hmem)
    have hc : c ≠ .scalar '[' := fun hc => hbracket (hc ▸ List.mem_cons_self)
    have hlast' (hne : before ≠ []) : before.getLast? ≠ some (.scalar '\\') := by
      rwa [List.getLast?_cons_of_ne_nil hne] at hlast
    rw [List.cons_append, piecesFrom]
    by_cases hslash : c = .scalar '\\'
    · have hne : before ≠ [] := by
        rintro rfl
        exact hlast (by rw [hslash]; rfl)
      rw [if_pos hslash]
      exact ih hrest fuel (n + 1) hlength (fun hnil => absurd hnil hne) (hlast' hne)
    · obtain ⟨u, rest, heq⟩ := ih hrest fuel 0 hlength (fun _ => rfl) (by
        by_cases hne : before = []
        · simp [hne]
        · exact hlast' hne)
      rw [if_neg hslash, if_neg hc, heq]
      obtain ⟨u', hu⟩ := addPlain_addPlain (c := c) (List.replicate n (.scalar '\\')) u
        (.tag 0 ("/" ++ name) :: rest)
      exact ⟨u', rest, hu⟩

/-- The tag that opens green, and what is after it. -/
theorem piecesFrom_green (fuel : Nat) (t : Text) :
    piecesFrom (fuel + 1) 0 ("[green]" ++ t) = .tag 0 "green" :: piecesFrom fuel 0 t := by
  have htag : tag? (Text.ofString "green]" ++ t) = some (Text.ofString "green", t) := rfl
  have hstart : Text.ofString "[green]" ++ t = .scalar '[' :: (Text.ofString "green]" ++ t) := rfl
  rw [hstart, piecesFrom, if_neg (by decide), if_pos rfl, htag]

/-! ### Closing tags -/

/-- The tag that opens green is open from then on. -/
theorem openAfter_green : openAfter [] "green" 0 = .ok [⟨0, "green"⟩] := by
  have hname : tagName "green" = "green" := by decide
  rw [openAfter.eq_def, hname]
  split
  · next heq =>
    have hhead := congrArg List.head? heq
    exact absurd (Option.some.inj hhead) (by decide)
  · rw [normalName_green]
    rfl

/-- Inside of green a name in small letters closes nothing, unless it is `green`. -/
theorem exists_openAfter_eq {name : Text} (hletters : ∀ c ∈ name, c.isSmallLetter)
    (hne : name ≠ []) (hgreen : name ≠ "green") (place position : Nat) :
    ∃ e, openAfter [⟨place, "green"⟩] ("/" ++ name) position = .error e := by
  have hname : tagName ("/" ++ name) = .scalar '/' :: name := by
    refine List.takeWhile_eq_self_iff.mpr fun c hc => ?_
    rcases List.mem_cons.mp hc with rfl | hc
    · rfl
    · obtain ⟨-, -, hnone⟩ := CodePoint.of_isSmallLetter (hletters c hc)
      simp only [List.mem_cons, not_or] at hnone
      simp [hnone.2.2.2.1]
  have htrim := Text.trim_of_isSmallLetter hletters
  rw [openAfter, hname]
  simp only
  rw [htrim, if_neg hne]
  cases hnormal : normalName name with
  | error e => exact ⟨e, rfl⟩
  | ok normal =>
    have hother : normal ≠ "green" := by
      rintro rfl
      exact normalName_ne_green hletters hne hgreen hnormal
    have hfind : [(⟨place, "green"⟩ : OpenTag)].find? (·.name = normal) = none := by
      simp [hother.symm]
    exact ⟨unmatched ("/" ++ name) position, by simp [bind, Except.bind, hfind]; rfl⟩

/-- A tag that closes nothing is a mistake, whatever is before it and after it. -/
theorem exists_showPieces_eq {opened : List OpenTag} {inside : Text}
    (h : ∀ position, ∃ e, openAfter opened inside position = .error e) (position : Nat)
    (u : Text) (rest : List Piece) :
    ∃ e, showPieces opened position (Piece.addPlain u (.tag 0 inside :: rest)) = .error e := by
  have htag (position : Nat) :
      ∃ e, showPieces opened position (.tag 0 inside :: rest) = .error e := by
    obtain ⟨e, he⟩ := h (position + 0)
    rw [showPieces, if_neg (by decide), he]
    exact ⟨e, rfl⟩
  by_cases hu : u = []
  · simpa only [Piece.addPlain, hu, if_true] using htag position
  · obtain ⟨e, he⟩ := htag (position + u.length)
    simp only [Piece.addPlain, hu, if_false]
    rw [showPieces, he]
    exact ⟨e, rfl⟩

/-- Inside of green a text cannot be shown if it closes another tag. -/
theorem exists_render_eq {t : Text} (h : t.ClosesOther "green") :
    ∃ e, render ("[green]" ++ t ++ "[/green]") = .error e := by
  obtain ⟨before, name, after, rfl, hbracket, hlast, hne, hletters, hgreen⟩ := h
  obtain ⟨fuel, hlength, hfuel⟩ : ∃ fuel, ("[green]" ++ (before ++ "[/" ++ name ++ "]" ++ after) ++
      "[/green]" : Text).length = fuel ∧ before.length < fuel := by
    have hopening : 0 < (Text.ofString "[green]").length := by decide
    refine ⟨_, rfl, ?_⟩
    simp only [List.length_append]
    omega
  have hassoc : ("[green]" ++ (before ++ "[/" ++ name ++ "]" ++ after) ++ "[/green]" : Text) =
      "[green]" ++ (before ++ ("[/" ++ name ++ "]" ++ (after ++ "[/green]"))) := by
    simp only [List.append_assoc]
  have hbrackets : ("[green]" ++ (before ++ "[/" ++ name ++ "]" ++ after) ++ "[/green]" :
      Text).contains (.scalar '[') = true := rfl
  obtain ⟨u, rest, hpieces⟩ := piecesFrom_closing hbracket hletters (after ++ "[/green]") fuel 0
    hfuel (fun _ => rfl) hlast
  obtain ⟨e, he⟩ := exists_showPieces_eq (exists_openAfter_eq hletters hne hgreen 0)
    (0 + 0 + (Text.ofString "green").length + 2) u rest
  refine ⟨e, ?_⟩
  rw [render, if_pos hbrackets, pieces, hlength, hassoc, piecesFrom_green, hpieces, showPieces,
    if_neg (by decide), openAfter_green]
  simp only [bind, Except.bind]
  rw [he]
  rfl

end Markup

/-- A terminal refuses closing tags that match no open one. -/
theorem Screen.ofWidth_refusesUnmatched (width : Nat) : (ofWidth width).RefusesUnmatched := by
  intro t h
  obtain ⟨e, he⟩ := Markup.exists_render_eq h
  refine ⟨e, ?_⟩
  simp only [ofWidth, Block.ofMarkup, he]
  rfl

end JqFlow
