import JqFlow.Proofs.Rendering.Answers
import JqFlow.Proofs.Rendering.Outcomes

/-!
# Verdicts on a query text

Whether a text is a query can be asked for by itself, or it comes out when its diagram is asked for.
The two agree: a diagram is refused exactly if the text is no query, and for the same reason. Blank
texts are told apart in both places, and nothing that is not blank is reported as if it were.

## Main statements

- `Query.parse_eq_blank_iff`: the blank texts are those that are reported as blank
- `Host.render_ne_unsupported`: the suffix of an output is found out before anything else
- `Host.diagram_agrees`: the answer to a request for a diagram tells whether the text is a query
-/

namespace JqFlow

/-! ### Blank texts -/

theorem ParseError.atStuck_ne_blank (source : Text) (stack : Stack) (previous : Option Token)
    (place : Cursor) : atStuck source stack previous place ≠ .blank := by
  rw [atStuck]
  cases scan? (fun _ => true) place.rest <;> simp

/-- What goes wrong while a text is read is not that it is blank. -/
theorem deriveFrom_ne_blank (source : Text) (fuel : Nat) (stack : Stack) (previous : Option Token)
    (cursor : Cursor) : deriveFrom source fuel stack previous cursor ≠ .error .blank := by
  induction fuel generalizing stack previous cursor with
  | zero => simp [deriveFrom, ParseError.atStuck_ne_blank]
  | succ fuel ih =>
    rw [deriveFrom]
    cases cursor.next stack.row.expects with
    | stuck place => simp [ParseError.atStuck_ne_blank]
    | atEnd =>
      dsimp only
      cases stack.feed ⟨.endOfInput, []⟩ <;> simp
    | token token after =>
      dsimp only
      cases stack.feed token.lexeme with
      | shifted stack => exact ih stack (some token) after
      | accepted derivation => simp
      | refused stack => simp

/-- The blank texts are those that are reported as blank. -/
theorem Query.parse_eq_blank_iff {text : Text} :
    parse text = .error .blank ↔ text.isBlank = true := by
  rw [parse]
  split
  · next hblank => exact iff_of_true rfl hblank
  · next hblank =>
    refine iff_of_false (fun h => ?_) hblank
    cases hderive : derive text with
    | ok derivation =>
      rw [hderive] at h
      exact absurd h (by simp [Except.map])
    | error e =>
      rw [hderive] at h
      obtain rfl : e = .blank := Except.error.inj h
      exact deriveFrom_ne_blank _ _ _ _ _ hderive

/-! ### Outputs with a format -/

namespace Host

variable {h : Host} {script : Text} {out : Location} {o : RenderOptions} {suffix : Text}
  {supported : List Text}

theorem keepAndFail_ne_unsupported {error : Path → RenderError}
    (herror : ∀ p, error p ≠ .unsupported suffix supported) :
    (h.keepAndFail script out error).1 ≠ .unsupported suffix supported := by
  rw [keepAndFail, keepScript]
  cases (Path.ofLocation out).scriptPath? with
  | none => simp
  | some p =>
    dsimp only
    obtain ⟨⟨e, files⟩, hx⟩ : ∃ x, h.files.writeTextAt p.parts script = x := ⟨_, rfl⟩
    rw [hx]
    cases e with
    | none => exact herror p
    | some e => simp

theorem renderFile_ne_unsupported (h : Host) (script : Text) (source out : Location) (r : Renderer)
    (o : RenderOptions) :
    (h.renderFile script source out r o).1 ≠ .error (.unsupported suffix supported) := by
  obtain ⟨⟨result, h'⟩, hx⟩ : ∃ x, h.run r o.layout source out o.timeout = x := ⟨_, rfl⟩
  have hfail (status : Option Int) (prints : Text) :
      (h'.keepAndFail script out (.failed o.renderer status prints)).1 ≠
        .unsupported suffix supported :=
    keepAndFail_ne_unsupported fun p => by simp
  simp only [renderFile, hx]
  cases result with
  | refused | unreadable | unmeasurable => simp
  | timedOut => simpa using hfail none _
  | finished status prints =>
    by_cases hstatus : status = 0
    · simp [hstatus]
    · simpa [hstatus] using hfail (some status) prints

theorem renderTo_ne_unsupported (h : Host) (script : Text) (out : Location) (format : OutputFormat)
    (o : RenderOptions) :
    (h.renderTo script out format o).1 ≠ .error (.unsupported suffix supported) := by
  by_cases himage : format = .script
  · subst himage
    rw [renderTo]
    obtain ⟨⟨e, files⟩, hx⟩ : ∃ x, h.files.writeTextAt out script = x := ⟨_, rfl⟩
    simp only [hx]
    cases e <;> simp
  · rw [renderTo_image h script out himage]
    simp only [renderTo]
    cases h.renderer? o.renderer with
    | none => simpa using keepAndFail_ne_unsupported fun p => by simp
    | some r =>
      simp only [renderTransient]
      obtain ⟨⟨e, files⟩, hx⟩ :
        ∃ x, h.files.writeTextAt (h.transientScript out) script = x := ⟨_, rfl⟩
      rw [hx]
      cases e with
      | some e => simp
      | none => exact renderFile_ne_unsupported _ script _ out r o

/-- The suffix of an output is found out before anything else. -/
theorem render_ne_unsupported {output : Path} {format : OutputFormat}
    (hformat : output.format? = some format) (h : Host) (script : Text) (o : RenderOptions)
    (suffix : Text) (supported : List Text) :
    (h.render script output o).1 ≠ .error (.unsupported suffix supported) := by
  simp only [render, hformat]
  cases output.parts.findSome? Text.argumentFault? with
  | some e => simp
  | none =>
    dsimp only
    obtain ⟨⟨e, files⟩, hx⟩ : ∃ x, h.files.makeFolders []
      (Path.ofLocation (output.locate h.here).dropLast) = x := ⟨_, rfl⟩
    rw [hx]
    cases e with
    | some e => simp
    | none => exact renderTo_ne_unsupported _ script _ format o

/-- The answer for a script is a picture or the script, never a refusal. -/
theorem picture_kind_ne_nil {s : Settings} {answer : Diagram}
    (hanswer : (h.picture script s).1 = .ok answer) : answer.kind ≠ [] := by
  have hsvg : Text.ofString "svg" ≠ [] := by decide
  have hd2 : Text.ofString "d2" ≠ [] := by decide
  obtain ⟨⟨result, after⟩, hx⟩ : ∃ x, h.withOwnFolder.render script
    (Path.ofLocation (pictureIn h.ownFolder)) s.renderOptions = x := ⟨_, rfl⟩
  have hsupported (suffix : Text) (supported : List Text) :
      result ≠ .error (.unsupported suffix supported) := by
    have hne := render_ne_unsupported (pictureIn_format? h.ownFolder) h.withOwnFolder script
      s.renderOptions suffix supported
    rwa [hx] at hne
  simp only [withOwnFolder, ownFolder, pictureIn] at hx
  simp only [picture, hx] at hanswer
  cases result with
  | ok rendered =>
    dsimp only at hanswer
    split at hanswer
    · obtain rfl := Except.ok.inj hanswer
      exact hsvg
    · exact absurd hanswer (by simp)
  | error e =>
    dsimp only at hanswer
    split at hanswer
    · obtain rfl := Except.ok.inj hanswer
      exact hd2
    · split at hanswer
      · exact absurd rfl (hsupported _ _)
      · exact absurd hanswer (by simp)

end Host

/-! ### Verdicts -/

theorem Query.validate_eq_none_iff {text : Text} :
    validate text = none ↔ ∃ q, parse text = .ok q := by
  rw [validate]
  cases parse text <;> simp

theorem Query.validate_eq_some_iff {text : Text} {e : ParseError} :
    validate text = some e ↔ parse text = .error e := by
  rw [validate]
  cases parse text <;> simp

/-- A blank text is reported as one, and no other text is. -/
theorem Query.validate_eq_blank_iff {text : Text} :
    validate text = some .blank ↔ text.isBlank = true :=
  validate_eq_some_iff.trans parse_eq_blank_iff

/-- The request for a text that is no query is refused, with the report on the text, as it is if the
text is blank. -/
theorem Host.diagram_of_validate {text : Text} {e : ParseError} (h : Query.validate text = some e)
    (host : Host) (s : Settings) :
    (host.diagram text s).1 = .ok (.refused
      (if text.isBlank then e.message else "failed to parse query: " ++ e.message)) := by
  rw [diagram]
  split
  · next hblank =>
    obtain rfl : e = .blank :=
      Option.some.inj (h.symm.trans (Query.validate_eq_blank_iff.mpr hblank))
    rfl
  · rw [Query.validate_eq_some_iff.mp h]
    rfl

/-- An answer to a request for a diagram is of no kind exactly if the text is no query. Its reason is
then the report on the text, as it is if the text is blank, and else with words before it. -/
theorem Host.diagram_agrees {h : Host} {text : Text} {s : Settings} {answer : Diagram}
    (hanswer : (h.diagram text s).1 = .ok answer) :
    (answer.kind = [] ↔ (Query.validate text).isSome = true) ∧
    ∀ e, Query.validate text = some e → answer.reason =
      if text.isBlank then e.message else "failed to parse query: " ++ e.message := by
  cases hvalidate : Query.validate text with
  | none =>
    obtain ⟨q, hq⟩ := Query.validate_eq_none_iff.mp hvalidate
    rw [diagram_of_parse hq] at hanswer
    exact ⟨iff_of_false (picture_kind_ne_nil hanswer) (by simp), by simp⟩
  | some e =>
    rw [diagram_of_validate hvalidate] at hanswer
    obtain rfl := Except.ok.inj hanswer
    refine ⟨iff_of_true rfl rfl, fun e' he' => ?_⟩
    obtain rfl := Option.some.inj he'
    rfl

/-- The request for the diagram of a text of two kinds of white space is answered, and refused with
the report that the text is blank. -/
theorem Host.diagram_agrees_blank :
    ((ofStatus 0).diagram "\x1c " {}).1 = .ok (.refused Diagram.blankReason) ∧
    Query.validate "\x1c " = some .blank ∧
    Diagram.blankReason = ParseError.blank.message := by
  have hanswer : ((ofStatus 0).diagram "\x1c " {}).1 = .ok (.refused Diagram.blankReason) := by
    rw [diagram, if_pos (by decide)]
  have hvalidate : Query.validate "\x1c " = some .blank :=
    Query.validate_eq_blank_iff.mpr (by decide)
  refine ⟨hanswer, hvalidate, ?_⟩
  have hreason := (diagram_agrees hanswer).2 .blank hvalidate
  rwa [if_pos (by decide)] at hreason

end JqFlow
