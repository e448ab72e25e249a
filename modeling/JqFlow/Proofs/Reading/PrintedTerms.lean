import JqFlow.Proofs.Reading.Printed

/-!
# Printed terms are read

What comes of the printed text of a term without parts or with any number of them, from what comes
of its parts.

## Main statements

- `opens_print`: how printed texts begin
- `printed_field`, `printed_call`, `printed_object` and the like: one for each kind of term
-/

namespace JqFlow

open Text (Closes)
open Query

/-! ### How printed texts begin -/

/-- A text that begins neither with a colon nor with a sign of equality. -/
def Text.Opens (t : Text) : Prop :=
  ∃ c u, t = c :: u ∧ c ≠ .scalar ':' ∧ c ≠ .scalar '='

theorem Text.Opens.append {t : Text} (h : t.Opens) (u : Text) : (t ++ u).Opens := by
  obtain ⟨c, v, rfl, hcolon, hequal⟩ := h
  exact ⟨c, v ++ u, rfl, hcolon, hequal⟩

theorem Text.Opens.parenthesize {t : Text} (h : t.Opens) (b : Bool) : (parenthesize b t).Opens := by
  cases b with
  | true => exact ⟨_, _, rfl, by decide, by decide⟩
  | false => exact h

theorem opens_of_begins {x : Terminal} {c : CodePoint} (u : Text) (h : x.begins c = true)
    (hcolon : x.begins (.scalar ':') = false) (hequal : x.begins (.scalar '=') = false) :
    Text.Opens (c :: u) := by
  refine ⟨c, u, rfl, ?_, ?_⟩
  · rintro rfl
    exact absurd (h.symm.trans hcolon) (by simp)
  · rintro rfl
    exact absurd (h.symm.trans hequal) (by simp)

theorem opens_name {name : Text} (h : Spelling.name? name = some name) : name.Opens := by
  obtain ⟨c, u, rfl, hc⟩ := Spelling.name?_head h
  exact opens_of_begins (x := .ident) u hc (by decide) (by decide)

theorem opens_number {text : Text} (h : Spelling.number? text = some text) : text.Opens := by
  cases text with
  | nil => exact absurd h (by decide)
  | cons c u =>
    refine opens_of_begins (x := .number) u ?_ (by decide) (by decide)
    by_contra hc
    have hdigit : c.isDecimalDigit = false := by simpa [Terminal.begins] using hc
    simp [Spelling.number?, Spelling.digits, hdigit] at h

/-- The printed text of a regular query begins as a query does. -/
theorem opens_print {q : Query} (h : q.Throughout IsRegular) : q.print.Opens := by
  induction h with
  | @intro q here below ih =>
    cases q with
    | operation op l r =>
      cases l with
      | none => exact absurd here id
      | some l =>
        cases r with
        | none => exact absurd here id
        | some r =>
          rw [print_operation here.1, printOperand, List.append_assoc]
          exact ((ih l (by simp [parts])).parenthesize _).append _
    | number text => exact opens_number here
    | format name text =>
      have hname : name.Opens := by
        have here : Spelling.format? name = some name := here
        unfold Spelling.format? at here
        split at here
        · exact ⟨_, _, rfl, by decide, by decide⟩
        · exact absurd here (by simp)
      cases text with
      | none => exact hname
      | some text =>
        rw [print, List.append_assoc]
        exact hname.append _
    | index name key e =>
      cases name with
      | some name => exact ⟨_, _, rfl, by decide, by decide⟩
      | none =>
        cases key <;> exact ⟨_, _, rfl, by decide, by decide⟩
    | call name args =>
      cases args with
      | nil => exact opens_name here.1
      | cons arg args =>
        rw [print, List.append_assoc, List.append_assoc]
        exact (opens_name here.1).append _
    | bool b => cases b <;> exact ⟨_, _, rfl, by decide, by decide⟩
    | unary op operand =>
      rw [here.1]
      exact ⟨_, _, rfl, by decide, by decide⟩
    | attempt body handler => cases handler <;> exact ⟨_, _, rfl, by decide, by decide⟩
    | bind source name body =>
      simp only [print, List.append_assoc]
      exact ((ih source (by simp [parts])).parenthesize _).append _
    | «foreign» kind => exact absurd here id
    | _ => exact ⟨_, _, rfl, by decide, by decide⟩

/-! ### Terms -/

theorem Query.legible_of_parts {q : Query} (h : q.isLegible = true) :
    q.Legible ↔ ∀ p ∈ q.parts, p.Legible :=
  legible_iff.trans (and_iff_right h)

theorem Query.steady_of_parts {q : Query} (h : q.keepsAttempt = true) :
    q.Steady ↔ ∀ p ∈ q.parts, p.Steady :=
  steady_iff.trans (and_iff_right h)

/-- A query is read again if its parts are. -/
theorem Returns.query {α β : Type} {legible steady : Prop} {f : α → β} {b : β} {o : Option α}
    (h : Returns legible steady f b o) {F : α → Query} {q : Query}
    (hF : ∀ a, (F a).ungroup = q.ungroup ↔ f a = b) (hlegible : q.isLegible = true)
    (hsteady : q.keepsAttempt = true) (hparts : legible ↔ ∀ p ∈ q.parts, p.Legible)
    (hparts' : steady ↔ ∀ p ∈ q.parts, p.Steady) : q.ReadAgain (o.map F) :=
  (h.map hF).congr (hparts.trans (legible_of_parts hlegible).symm)
    (hparts'.trans (steady_of_parts hsteady).symm)

namespace Printed

variable {q : Query} {o : Option Query}

/-- What comes of the printed text of a term that no suffix is a part of. -/
theorem plain (hreads : ReadsAt q.level q.leads q.endsOpen q.print o) (hreturns : q.ReadAgain o)
    (hop : ∀ op l r, q ≠ operation op l r) (hbracketed : q.isBracketed = false) : Printed q o :=
  ⟨hreads, hreturns, fun op _ l r h => absurd h (hop op l r), by simp [hbracketed]⟩

/-- A term without parts is read again. -/
theorem leaf (hreads : ReadsAt q.level q.leads q.endsOpen q.print (some q))
    (hparts : q.parts = []) (hlegible : q.isLegible = true) (hsteady : q.keepsAttempt = true)
    (hop : ∀ op l r, q ≠ operation op l r) (hbracketed : q.isBracketed = false) :
    Printed q (some q) := by
  refine plain hreads ((Returns.pure ungroup q).congr ?_ ?_) hop hbracketed
  · rw [legible_of_parts hlegible, hparts]
    simp
  · rw [steady_of_parts hsteady, hparts]
    simp

end Printed

section Terms

variable {q : Query} {o : Option Query} {name : Text}

theorem printed_string (text : Text) : Printed (string text) (some (string text)) :=
  .leaf (reads_string text) rfl rfl rfl (by simp) rfl

theorem printed_format (text : Option Text) (h : (format name text).IsRegular) :
    Printed (format name text) (some (format name text)) := by
  cases text with
  | none => exact .leaf (reads_format h) rfl rfl rfl (by simp) rfl
  | some text => exact .leaf (reads_formatString h text) rfl rfl rfl (by simp) rfl

/-- Access to a field is refused if the name of the field has several parts. -/
theorem printed_field (h : Spelling.name? name = some name) :
    ∃ o, Printed (index (some name) none none) o := by
  cases hplain : name.isPlainName with
  | true =>
    have hlegible : (index (some name) none none).isLegible = true := by
      simp [isLegible, hasPlainField, pipesNoLabel, isGrouped, hplain]
    exact ⟨_, .leaf (reads_field hplain) rfl hlegible rfl (by simp) rfl⟩
  | false =>
    refine ⟨none, .plain (reads_joinedField h hplain _ _) (.none fun hlegible => ?_) (by simp) rfl⟩
    have hnode := (legible_iff.mp hlegible).1
    simp [isLegible, hasPlainField, hplain] at hnode

theorem printed_bool (b : Bool) : Printed (bool b) (some (bool b)) := by
  cases b with
  | true =>
    have hname : Spelling.name? "true" = some "true" := by decide
    exact .leaf (reads_name hname (by decide)) rfl rfl rfl (by simp) rfl
  | false =>
    have hname : Spelling.name? "false" = some "false" := by decide
    exact .leaf (reads_name hname (by decide)) rfl rfl rfl (by simp) rfl

end Terms

/-! ### Terms with parts -/

section Parts

variable {p q : Query} {o : Option Query} {name : Text}

theorem Printed.exists_pipe (h : ∃ o, Printed p o) (hpipe : p.IsPipe) :
    ∃ o, ReadsAt 13 false true p.print o ∧ p.ReadAgain o := by
  obtain ⟨o, h⟩ := h
  exact ⟨o, h.pipe hpipe, h.returns⟩

theorem Printed.exists_term (h : ∃ o, Printed p o) {level : Nat} (hterm : p.IsTerm level)
    (hlow : 2 ≤ level) (hhigh : level < 13) :
    ∃ o, ReadsAt level (!p.isOpen && p.leads) (!p.isOpen && p.endsOpen)
      (parenthesize p.isOpen p.print) o ∧ p.ReadAgain o := by
  obtain ⟨o, h⟩ := h
  exact h.term hterm hlow hhigh

/-- Several parts, each with what comes of it. -/
theorem exists_items {α β : Type} {P : α → β → Prop} {as : List α} (h : ∀ a ∈ as, ∃ b, P a b) :
    ∃ items : List (α × β), items.map Prod.fst = as ∧ ∀ i ∈ items, P i.1 i.2 := by
  induction as with
  | nil => exact ⟨[], rfl, by simp⟩
  | cons a as ih =>
    obtain ⟨b, hb⟩ := h a List.mem_cons_self
    obtain ⟨items, rfl, hitems⟩ := ih fun a' ha' => h a' (List.mem_cons_of_mem a ha')
    refine ⟨(a, b) :: items, rfl, ?_⟩
    simpa using ⟨hb, fun a b hab => hitems (a, b) hab⟩

theorem printList_eq (qs : List Query) : printList qs = qs.map print := by
  induction qs with
  | nil => rfl
  | cons q qs ih => rw [printList, ih, List.map_cons]

theorem printed_call {args : List Query} (h : (call name args).IsRegular)
    (ih : ∀ p ∈ args, ∃ o, Printed p o) : ∃ o, Printed (call name args) o := by
  obtain ⟨hname, hbarred, hbare, hargs⟩ := h
  cases args with
  | nil =>
    have hreads := reads_name hname hbarred
    rw [hbare rfl] at hreads
    exact ⟨_, .leaf hreads rfl rfl rfl (by simp) rfl⟩
  | cons arg args =>
    obtain ⟨items, hfst, hitems⟩ := exists_items fun p hp =>
      Printed.exists_pipe (ih p hp) (hargs p hp)
    cases items with
    | nil => exact absurd hfst (by simp)
    | cons i items =>
      have hreads := reads_call hname hbarred fun j hj => (hitems j hj).1
      have htext : (call name (arg :: args)).print =
          name ++ "(" ++ Text.join "; " ((i :: items).map fun j => j.1.print) ++ ")" := by
        rw [print, printList_eq, ← hfst, List.map_map]
        rfl
      rw [← htext] at hreads
      refine ⟨_, .plain hreads ?_ (by simp) rfl⟩
      refine (Returns.every (f := ungroup) fun j hj => (hitems j hj).2).query ?_ rfl rfl ?_ ?_
      · rw [← hfst]
        simp [ungroup, Function.comp_def]
      · rw [parts, ← hfst]
        simp
      · rw [parts, ← hfst]
        simp

theorem printed_array {body : Option Query} (h : (array body).IsRegular)
    (ih : ∀ p ∈ body, ∃ o, Printed p o) : ∃ o, Printed (array body) o := by
  cases body with
  | none => exact ⟨_, .leaf reads_emptyArray rfl rfl rfl (by simp) rfl⟩
  | some body =>
    obtain ⟨o, hreads, hreturns⟩ := Printed.exists_pipe (ih body rfl) (h body rfl)
    refine ⟨_, .plain (reads_array hreads) ?_ (by simp) rfl⟩
    exact hreturns.query (by simp [ungroup]) rfl rfl (by simp [parts]) (by simp [parts])

/-- The text of an entry. -/
def Query.printEntry (e : Entry Query) : Text :=
  printKey e.key e.keyExpr ++ (": " ++ parenthesize e.value.isOpen e.value.print)

theorem printEntries_eq (es : List (Entry Query)) : printEntries es = es.map printEntry := by
  induction es with
  | nil => rfl
  | cons e es ih =>
    obtain ⟨key, value, keyExpr⟩ := e
    rw [printEntries, ih, List.map_cons, List.append_assoc]
    rfl

/-- What comes of the text of an entry. -/
theorem printed_entry {e : Entry Query} (hvalue : e.value.IsTerm 4)
    (hkey : ∀ p ∈ e.keyExpr, p.IsPipe) (ih : ∀ p ∈ entryParts e, ∃ o, Printed p o) :
    ∃ o : Option (Entry Query), Reads (.n .entry) Closes true true (printEntry e) o ∧
      Returns (∀ p ∈ entryParts e, p.Legible) (∀ p ∈ entryParts e, p.Steady) ungroupEntry
        (ungroupEntry e) o := by
  obtain ⟨key, value, keyExpr⟩ := e
  obtain ⟨o, hreads, hreturns⟩ := Printed.exists_term (ih value (by simp [entryParts])) hvalue
    (by decide) (by decide)
  have hreads := reads_value hreads.opened
  cases keyExpr with
  | none =>
    refine ⟨o.map fun v => (⟨key, v, none⟩ : Entry Query), ?_, ?_⟩
    · simp only [printEntry, printKey]
      cases hplain : key.isPlainName with
      | true => exact reads_namedEntry hplain hreads
      | false => exact reads_quotedEntry key hreads
    · exact (hreturns.map (by simp [ungroupEntry])).congr (by simp [entryParts])
        (by simp [entryParts])
  | some k =>
    obtain ⟨ok, hreadsk, hreturnsk⟩ := Printed.exists_pipe (ih k (by simp [entryParts]))
      (hkey k rfl)
    refine ⟨(both ok o).map fun p => (⟨p.1.print, p.2, some p.1⟩ : Entry Query), ?_, ?_⟩
    · exact reads_computedEntry hreadsk hreads
    · exact ((hreturnsk.both hreturns).map (by simp [ungroupEntry, and_comm])).congr
        (by simp [entryParts, and_comm]) (by simp [entryParts, and_comm])

theorem printed_object {entries : List (Entry Query)} (h : (object entries).IsRegular)
    (ih : ∀ p ∈ (object entries).parts, ∃ o, Printed p o) : ∃ o, Printed (object entries) o := by
  cases entries with
  | nil => exact ⟨_, .leaf reads_emptyObject rfl rfl rfl (by simp) rfl⟩
  | cons e entries =>
    have hentries (e' : Entry Query) (he' : e' ∈ e :: entries) :=
      printed_entry (h e' he').1 (h e' he').2 fun p hp =>
        ih p (List.mem_flatMap.mpr ⟨e', he', hp⟩)
    obtain ⟨items, hfst, hitems⟩ := exists_items hentries
    cases items with
    | nil => exact absurd hfst (by simp)
    | cons i items =>
      have hreads := reads_object (f := printEntry) fun j hj => (hitems j hj).1
      have htext : (object (e :: entries)).print =
          "\x7b" ++ Text.join ", " ((i :: items).map fun j => printEntry j.1) ++ "\x7d" := by
        rw [print, printEntries_eq, ← hfst, List.map_map]
        rfl
      rw [← htext] at hreads
      refine ⟨_, .plain hreads ?_ (by simp) rfl⟩
      have hevery := Returns.every (P := fun e => ∀ p ∈ entryParts e, p.Legible)
        (S := fun e => ∀ p ∈ entryParts e, p.Steady) (u := ungroupEntry)
        fun j hj => (hitems j hj).2
      have hparts (P : Query → Prop) : (∀ j ∈ i :: items, ∀ p ∈ entryParts j.1, P p) ↔
          ∀ p ∈ (object (e :: entries)).parts, P p := by
        rw [parts, ← hfst, List.flatMap_map]
        constructor
        · intro hall p hp
          obtain ⟨j, hj, hp⟩ := List.mem_flatMap.mp hp
          exact hall j hj p hp
        · intro hall j hj p hp
          exact hall p (List.mem_flatMap.mpr ⟨j, hj, hp⟩)
      refine hevery.query ?_ rfl rfl (hparts _) (hparts _)
      rw [← hfst]
      simp [ungroup, Function.comp_def]

end Parts

end JqFlow
