import JqFlow.Proofs.Reading.PrintedClauses
import Mathlib.Data.List.Forall2

/-!
# Quoted texts in queries

A quoted text is one string literal whatever stands after it, and the literal stands for the text. So
a quoted text is read as the text wherever a query has one: as a query of its own, as a key after a
dot, and as the key of an entry of an object.

## Main definitions

- `Entry.Readable`: what is asked of the other parts of an entry
- `Entry.KeepsKey`: a named key that is the same in two entries

## Main statements

- `reads_entries`: an object of readable entries is read entry by entry
- `parse_ok_iff_readable`: the objects among the regular queries that are read at all
- `Query.parse_quoted`: what a quoted text is read as
-/

namespace JqFlow

open Text (Closes)
open Query

/-- An entry whose value is read of its text, as the expression of its key is if it has one. -/
structure Entry.Readable (e : Entry Query) : Prop where
  value : ∃ v, Reads (.n .objValue) Closes true true
    (parenthesize e.value.isOpen e.value.print) (some v)
  key : ∀ k ∈ e.keyExpr, ∃ k', ReadsAt 13 false true k.print (some k')

/-- A named key of one entry is the named key of another. -/
def Entry.KeepsKey (e e' : Entry Query) : Prop :=
  e.keyExpr = none → e'.keyExpr = none ∧ e'.key = e.key

/-! ### Objects -/

section Entries

variable {e : Entry Query} {es : List (Entry Query)}

/-- A readable entry is read with the key that is printed, in quotes or without. -/
theorem reads_entry (h : e.Readable) : ∃ e' : Entry Query,
    Reads (.n .entry) Closes true true (printEntry e) (some e') ∧ e.KeepsKey e' := by
  obtain ⟨key, value, keyExpr⟩ := e
  obtain ⟨v, hvalue⟩ := h.value
  cases keyExpr with
  | none =>
    refine ⟨⟨key, v, none⟩, ?_, fun _ => ⟨rfl, rfl⟩⟩
    simp only [printEntry, printKey]
    cases hplain : key.isPlainName with
    | true => exact reads_namedEntry hplain hvalue
    | false => exact reads_quotedEntry key hvalue
  | some k =>
    obtain ⟨k', hkey⟩ := h.key k rfl
    exact ⟨_, reads_computedEntry hkey hvalue, fun hnone => absurd hnone (by simp)⟩

/-- Several parts that each have a meaning have one together. -/
theorem exists_every {α β : Type} {R : α → β → Prop} {items : List (α × Option β)}
    (h : ∀ i ∈ items, ∃ b, i.2 = some b ∧ R i.1 b) :
    ∃ bs, every (items.map Prod.snd) = some bs ∧ List.Forall₂ R (items.map Prod.fst) bs := by
  induction items with
  | nil => exact ⟨[], rfl, .nil⟩
  | cons i items ih =>
    obtain ⟨b, hb, hR⟩ := h i List.mem_cons_self
    obtain ⟨bs, hbs, hall⟩ := ih fun j hj => h j (List.mem_cons_of_mem i hj)
    exact ⟨b :: bs, by simp [every, both, hb, hbs], .cons hR hall⟩

/-- An object of readable entries is read entry by entry. -/
theorem reads_entries (h : ∀ e ∈ es, e.Readable) : ∃ es' : List (Entry Query),
    ReadsAt 2 false false (print (object es)) (some (object es')) ∧
      List.Forall₂ Entry.KeepsKey es es' := by
  have hone (e : Entry Query) (he : e ∈ es) : ∃ o : Option (Entry Query),
      Reads (.n .entry) Closes true true (printEntry e) o ∧ ∃ e', o = some e' ∧ e.KeepsKey e' := by
    obtain ⟨e', hreads, hkeeps⟩ := reads_entry (h e he)
    exact ⟨some e', hreads, e', rfl, hkeeps⟩
  obtain ⟨items, hfst, hitems⟩ := exists_items hone
  obtain ⟨es', hevery, hkeeps⟩ := exists_every fun i hi => (hitems i hi).2
  refine ⟨es', ?_, hfst ▸ hkeeps⟩
  cases items with
  | nil =>
    obtain rfl : [] = es := hfst
    obtain rfl : [] = es' := Option.some.inj hevery
    exact reads_emptyObject
  | cons i items =>
    have hreads := reads_object (f := printEntry) fun j hj => (hitems j hj).1
    rw [hevery] at hreads
    have htext : (object es).print =
        "\x7b" ++ Text.join ", " ((i :: items).map fun j => printEntry j.1) ++ "\x7d" := by
      rw [print, printEntries_eq, ← hfst, List.map_map]
      rfl
    rw [htext]
    exact hreads

/-- An entry of regular parts that can all be read. -/
theorem readable_of_regular (hregular : ∀ p ∈ entryParts e, p.Throughout IsRegular)
    (hlegible : ∀ p ∈ entryParts e, p.Legible) (hvalue : e.value.IsTerm 4)
    (hkey : ∀ p ∈ e.keyExpr, p.IsPipe) : e.Readable := by
  constructor
  · have hmem : e.value ∈ entryParts e := by simp [entryParts]
    obtain ⟨o, hreads, hreturns⟩ := Printed.exists_term (exists_printed (hregular _ hmem)) hvalue
      (by decide) (by decide)
    obtain ⟨v, rfl⟩ := hreturns.exists_eq (hlegible _ hmem)
    exact ⟨v, (reads_value hreads.opened).leading⟩
  · intro k hk
    have hmem : k ∈ entryParts e := List.mem_cons_of_mem _ (Option.mem_toList.mpr hk)
    obtain ⟨o, hreads, hreturns⟩ := Printed.exists_pipe (exists_printed (hregular _ hmem)) (hkey k hk)
    obtain ⟨k', rfl⟩ := hreturns.exists_eq (hlegible _ hmem)
    exact ⟨k', hreads⟩

/-- A regular object is read exactly if its entries are readable. -/
theorem parse_ok_iff_readable (h : (object es).Throughout IsRegular) :
    (∃ q, parse (print (object es)) = .ok q) ↔ ∀ e ∈ es, e.Readable := by
  constructor
  · rintro ⟨q, hq⟩
    have hreturns := parse_print h rfl
    rw [hq] at hreturns
    have hlegible := (legible_iff.mp (hreturns.isSome.mp rfl)).2
    obtain ⟨hhere, hbelow⟩ := throughout_iff.mp h
    intro e he
    have hmem (p : Query) (hp : p ∈ entryParts e) : p ∈ (object es).parts :=
      List.mem_flatMap.mpr ⟨e, he, hp⟩
    exact readable_of_regular (fun p hp => hbelow p (hmem p hp))
      (fun p hp => hlegible p (hmem p hp)) (hhere e he).1 (hhere e he).2
  · intro hall
    obtain ⟨es', hreads, -⟩ := reads_entries hall
    exact ⟨_, hreads.parse_eq⟩

end Entries

/-! ### Quoted texts -/

/-- A quoted text is matched as a string literal up to its last quote, whatever comes after it, and
the literal stands for the text. It is read as a string on its own and as a key after a dot. An object
with a source text whose entries are readable is read with the keys it had, in quotes or without: as a
query, and wherever a term may stand. The entries of a regular object are readable exactly if its text
is read at all. -/
theorem Query.parse_quoted :
    (∀ s r : Text, Terminal.string.match? (Quoted.quote s ++ r) = some (Quoted.quote s)) ∧
    (∀ s : Text, Quoted.unquote (Quoted.quote s) = s) ∧
    (∀ s : Text, parse (Quoted.quote s) = .ok (.string s)) ∧
    (∀ s : Text, parse ("." ++ Quoted.quote s) = .ok (.index none (some s) none)) ∧
    (∀ (es : List (Entry Query)) (t : Text), (object es).format? = .ok t → (∀ e ∈ es, e.Readable) →
      ∃ es', ReadsAt 2 false false t (some (.object es')) ∧ parse t = .ok (.object es') ∧
        List.Forall₂ Entry.KeepsKey es es') ∧
    ∀ es : List (Entry Query), (object es).Throughout IsRegular →
      ((∃ t q, (object es).format? = .ok t ∧ parse t = .ok q) ↔ ∀ e ∈ es, e.Readable) := by
  refine ⟨fun s r => (Quoted.encodes_encode s).string?_eq r, Quoted.unquote_quote,
    fun s => (reads_string s).parse_eq, fun s => (reads_key s).parse_eq, ?_, ?_⟩
  · intro es t ht hall
    obtain rfl := print_of_format? ht
    obtain ⟨es', hreads, hkeeps⟩ := reads_entries hall
    exact ⟨es', hreads, hreads.parse_eq, hkeeps⟩
  · intro es h
    rw [← parse_ok_iff_readable h, format?_of_regular h]
    simp

/-- A key with quotes, a backslash and a line end, before a string of one backslash. -/
theorem Query.parse_quoted_key :
    let es : List (Entry Query) := [⟨"say \"hi\"\\\n", .string "\\", none⟩]
    let t : Text := "\x7b\"say \\\"hi\\\"\\\\\\n\": \"\\\\\"\x7d"
    (object es).format? = .ok t ∧ (∀ e ∈ es, e.Readable) ∧
      ∃ v, parse t = .ok (.object [⟨"say \"hi\"\\\n", v, none⟩]) := by
  intro es t
  have hformat : (object es).format? = .ok t := by decide
  have hreadable : ∀ e ∈ es, e.Readable := by
    intro e he
    obtain rfl := List.mem_singleton.mp he
    have hvalue : ReadsAt 4 false false (Quoted.quote "\\") (some (.string "\\")) :=
      (reads_string "\\").lift (by decide) (by decide) (by decide) fun h => absurd h (by decide)
    exact ⟨⟨_, (reads_value hvalue.opened).leading⟩, by simp⟩
  obtain ⟨es', -, hparse, hall⟩ := parse_quoted.2.2.2.2.1 es t hformat hreadable
  obtain ⟨e', _, hkeeps, hnil, rfl⟩ := List.forall₂_cons_left_iff.mp hall
  obtain rfl := List.forall₂_nil_left_iff.mp hnil
  obtain ⟨key, v, keyExpr⟩ := e'
  obtain ⟨rfl, rfl⟩ := hkeeps rfl
  exact ⟨hformat, hreadable, v, hparse⟩

end JqFlow
