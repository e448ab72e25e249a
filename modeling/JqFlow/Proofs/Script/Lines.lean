import JqFlow.Proofs.Graph.Lookup
import JqFlow.Proofs.Script.Quoting

/-!
# The lines of a script

A script can be cut into its lines, and an edge can be told from its line: ids hold neither
newlines, spaces, dots nor colons, so the last id of each of the two paths can be found.

## Main definitions

- `Script.Bare`: texts that hold nothing that stands between ids
- `Graph.scriptLines`: the lines of a script
- `Script.Addressed`: is an element addressed by bare ids, its own last?

## Main statements

- `Graph.scriptLines_eq`: scripts that are the same have the same lines
- `Script.edge_eq_of_line_eq`: edges with the same line are the same
-/

namespace JqFlow

/-! ### Cutting into lines -/

/-- A line with the newline that ends it. -/
def withNewline (l : Text) : Text := l ++ [CodePoint.scalar '\n']

/-- Texts are the same, up to the first place of a code point and after it, if they are the same. -/
theorem Text.eq_of_cut_eq {c : CodePoint} {s s' t t' : Text} (h : c ∉ s) (h' : c ∉ s')
    (heq : s ++ c :: t = s' ++ c :: t') : s = s' ∧ t = t' := by
  induction s generalizing s' with
  | nil =>
    cases s' with
    | nil => exact ⟨rfl, List.tail_eq_of_cons_eq heq⟩
    | cons a s' => exact absurd (List.head_eq_of_cons_eq heq ▸ List.mem_cons_self) h'
  | cons a s ih =>
    cases s' with
    | nil => exact absurd (List.head_eq_of_cons_eq heq ▸ List.mem_cons_self) h
    | cons a' s' =>
      obtain ⟨rfl, hrest⟩ := List.cons.inj heq
      obtain ⟨rfl, rfl⟩ := ih (fun hs => h (List.mem_cons_of_mem _ hs))
        (fun hs => h' (List.mem_cons_of_mem _ hs)) hrest
      exact ⟨rfl, rfl⟩

/-- Lines can be told apart if each of them is ended by a newline. -/
theorem lines_eq_of_flatMap_eq {ls ls' : List Text} (h : ∀ l ∈ ls, Script.OneLine l)
    (h' : ∀ l ∈ ls', Script.OneLine l)
    (heq : ls.flatMap withNewline = ls'.flatMap withNewline) : ls = ls' := by
  induction ls generalizing ls' with
  | nil =>
    cases ls' with
    | nil => rfl
    | cons l' ls' => exact absurd heq (by simp [withNewline])
  | cons l ls ih =>
    cases ls' with
    | nil => exact absurd heq (by simp [withNewline])
    | cons l' ls' =>
      rw [List.flatMap_cons, List.flatMap_cons, withNewline, withNewline, List.append_assoc,
        List.append_assoc] at heq
      obtain ⟨rfl, hrest⟩ := Text.eq_of_cut_eq (h l List.mem_cons_self) (h' l' List.mem_cons_self)
        heq
      rw [ih (fun l hl => h l (List.mem_cons_of_mem _ hl))
        (fun l hl => h' l (List.mem_cons_of_mem _ hl)) hrest]

/-- The lines of a script. -/
def Graph.scriptLines (g : Graph) (title direction : Text) : List Text :=
  Script.header title direction ++ Script.declareAll 0 g.elements ++ [[]] ++
    g.edges.map (Script.edgeLine g)

theorem Graph.script_eq (g : Graph) (title direction : Text) :
    g.script title direction = (g.scriptLines title direction).flatMap withNewline := by
  have hne : g.scriptLines title direction ≠ [] := by simp [scriptLines, Script.header]
  rw [script, ← scriptLines, ← List.dropLast_concat_getLast hne, Text.join_concat,
    List.flatMap_append, List.flatMap_singleton, List.append_assoc]
  rfl

/-- Scripts that are the same have the same lines. -/
theorem Graph.scriptLines_eq {g g' : Graph} {title title' direction : Text}
    (h : ∀ l ∈ g.scriptLines title direction, Script.OneLine l)
    (h' : ∀ l ∈ g'.scriptLines title' direction, Script.OneLine l)
    (heq : g.script title direction = g'.script title' direction) :
    g.scriptLines title direction = g'.scriptLines title' direction := by
  rw [script_eq, script_eq] at heq
  exact lines_eq_of_flatMap_eq h h' heq

namespace Script

/-! ### Ids and paths -/

/-- What stands between ids, and between lines. -/
def separators : Text := "\n .:"

/-- A text that holds nothing that stands between ids. -/
def Bare (t : Text) : Prop :=
  ∀ c ∈ t, c ∉ separators

instance (t : Text) : Decidable (Bare t) :=
  inferInstanceAs (Decidable (∀ c ∈ t, c ∉ separators))

theorem bare_of_isDigit {t : Text} (h : ∀ c ∈ t, c.isAsciiDigit) : Bare t := by
  have hnone : ∀ c ∈ separators, ¬c.isAsciiDigit := by decide
  exact fun c hc hmem => hnone c hmem (h c hc)

theorem bare_append {s t : Text} (hs : Bare s) (ht : Bare t) : Bare (s ++ t) := by
  intro c hc
  rcases List.mem_append.mp hc with hc | hc
  · exact hs c hc
  · exact ht c hc

theorem bare_ofNat (n : Nat) : Bare (Text.ofNat n) := by
  refine bare_of_isDigit fun c hc => ?_
  obtain ⟨d, hd, rfl⟩ := List.mem_map.mp hc
  exact Nat.isDigit_of_mem_toDigits (by decide) (by decide) hd

/-- A dot, or no separator: what a path of bare ids holds. -/
theorem mem_dotted {ancestors : List Id} {id : Id} (ha : ∀ a ∈ ancestors, Bare a) (hid : Bare id) :
    ∀ c ∈ Graph.dotted ancestors id, c = '.' ∨ c ∉ separators := by
  intro c hc
  rw [Graph.dotted, Text.join_concat] at hc
  rcases List.mem_append.mp hc with hc | hc
  · obtain ⟨a, hmem, hc⟩ := List.mem_flatMap.mp hc
    rcases List.mem_append.mp hc with hc | hc
    · exact .inr (ha a hmem c hc)
    · exact .inl (List.mem_singleton.mp hc)
  · exact .inr (hid c hc)

/-- What stands after the last dot. -/
def afterDots (t : Text) : Text :=
  (t.reverse.takeWhile fun c => c != CodePoint.scalar '.').reverse

theorem afterDots_dotted {ancestors : List Id} {id : Id} (hid : Bare id) :
    afterDots (Graph.dotted ancestors id) = id := by
  have hdots : ∀ c ∈ id.reverse, (c != CodePoint.scalar '.') = true := by
    intro c hc
    refine bne_iff_ne.mpr fun hdot => hid c (List.mem_reverse.mp hc) ?_
    rw [hdot]
    decide
  rw [Graph.dotted, Text.join_concat, afterDots, List.reverse_append,
    List.takeWhile_append_of_pos hdots]
  -- Before the last id there is nothing, or a dot.
  rcases List.eq_nil_or_concat ancestors with rfl | ⟨init, a, rfl⟩
  · simp
  · simp [Text.ofString]

/-- Is an element addressed by bare ids, its own last? -/
def Addressed (g : Graph) (id : Id) : Prop :=
  Bare id ∧ ∃ ancestors, (∀ a ∈ ancestors, Bare a) ∧ address g id = Graph.dotted ancestors id

/-- Where all ids are bare, so are those around an element. -/
theorem bare_ancestors {g : Graph} (hbare : ∀ e ∈ g.nodes, Bare e.id) {x : List Id × Element}
    (hx : x ∈ g.walk) : ∀ a ∈ x.1, Bare a := by
  intro a ha
  obtain ⟨e, he, rfl⟩ := List.mem_map.mp (Graph.mem_ids_of_mem_ancestors hx ha)
  exact hbare e he

/-- Where all ids are bare, every element is addressed by bare ids. -/
theorem addressed_of_contains {g : Graph} (hbare : ∀ e ∈ g.nodes, Bare e.id) {id : Id}
    (h : g.contains id) : Addressed g id := by
  obtain ⟨x, hx, rfl, hpath⟩ := Graph.exists_pathOf? h
  refine ⟨hbare x.2 (List.mem_map.mpr ⟨x, hx, rfl⟩), x.1, bare_ancestors hbare hx, ?_⟩
  rw [address, hpath]
  rfl

theorem Addressed.mem {g : Graph} {id : Id} (h : Addressed g id) :
    ∀ c ∈ address g id, c = '.' ∨ c ∉ separators := by
  obtain ⟨hid, ancestors, ha, haddress⟩ := h
  rw [haddress]
  exact mem_dotted ha hid

/-- An address holds no separator but dots. -/
theorem Addressed.notMem {g : Graph} {id : Id} (h : Addressed g id) {c : CodePoint}
    (hc : c ∈ separators) (hdot : c ≠ '.') : c ∉ address g id :=
  fun hmem => (h.mem c hmem).elim hdot fun hno => hno hc

/-- Elements with the same address have the same id. -/
theorem Addressed.id_eq {g g' : Graph} {id id' : Id} (h : Addressed g id) (h' : Addressed g' id')
    (heq : address g id = address g' id') : id = id' := by
  obtain ⟨hid, _, -, haddress⟩ := h
  obtain ⟨hid', _, -, haddress'⟩ := h'
  rw [haddress, haddress'] at heq
  rw [← afterDots_dotted hid, heq, afterDots_dotted hid']

theorem Addressed.oneLine {g : Graph} {id : Id} (h : Addressed g id) : OneLine (address g id) :=
  h.notMem (by decide) (by decide)

/-! ### The line of an edge -/

/-- What is written for the label of an edge. -/
def labelPart : Option Text → Text
  | some label => if label = [] then [] else ": " ++ quote label
  | none => []

theorem edgeLine_eq (g : Graph) (w : Edge) :
    edgeLine g w = address g w.source ++ " -> " ++ address g w.target ++ labelPart w.label := by
  cases hlabel : w.label with
  | none => simp [edgeLine, labelPart, hlabel]
  | some label =>
    by_cases hempty : label = []
    · simp [edgeLine, labelPart, hlabel, hempty]
    · simp [edgeLine, labelPart, hlabel, hempty]

theorem oneLine_edgeLine {g : Graph} {w : Edge} (hsource : Addressed g w.source)
    (htarget : Addressed g w.target) : OneLine (edgeLine g w) := by
  have hlabel : OneLine (labelPart w.label) := by
    cases w.label with
    | none => decide
    | some label =>
      rw [labelPart]
      split
      · decide
      · exact OneLine.append (by decide) (oneLine_quote label)
  rw [edgeLine_eq]
  exact ((hsource.oneLine.append (by decide)).append htarget.oneLine).append hlabel

theorem labelPart_name (type : ValueType) :
    labelPart (some type.name) =
      CodePoint.scalar ':' :: CodePoint.scalar ' ' :: quote type.name := by
  cases type <;> rfl

theorem kept_name (type : ValueType) : kept type.name = type.name := by
  cases type <;> rfl

theorem name_eq_of_quote_eq {type type' : ValueType}
    (h : quote type.name = quote type'.name) : type.name = type'.name := by
  rw [← kept_name type, kept_eq_of_quote_eq h, kept_name]

/-- A colon ends what comes before a label, and without a label there is none: both can be told from
what is written. -/
theorem labelPart_cancel {s s' : Text} (hs : CodePoint.scalar ':' ∉ s)
    (hs' : CodePoint.scalar ':' ∉ s') {type type' : Option ValueType}
    (h : s ++ labelPart (type.map ValueType.name) = s' ++ labelPart (type'.map ValueType.name)) :
    s = s' ∧ type.map ValueType.name = type'.map ValueType.name := by
  cases type with
  | none =>
    cases type' with
    | none =>
      rw [Option.map_none, labelPart, List.append_nil, List.append_nil] at h
      exact ⟨h, rfl⟩
    | some type' =>
      rw [Option.map_none, Option.map_some, labelPart_name, labelPart, List.append_nil] at h
      exact absurd (by rw [h]; simp) hs
  | some type =>
    cases type' with
    | none =>
      rw [Option.map_none, Option.map_some, labelPart_name, labelPart, List.append_nil] at h
      exact absurd (by rw [← h]; simp) hs'
    | some type' =>
      rw [Option.map_some, Option.map_some, labelPart_name, labelPart_name] at h
      obtain ⟨hsame, hquote⟩ := Text.eq_of_cut_eq hs hs' h
      exact ⟨hsame, congrArg some (name_eq_of_quote_eq (List.tail_eq_of_cons_eq hquote))⟩

/-- Edges with the same line are the same, if their labels are names of types. -/
theorem edge_eq_of_line_eq {g g' : Graph} {w w' : Edge} (hsource : Addressed g w.source)
    (htarget : Addressed g w.target) (hsource' : Addressed g' w'.source)
    (htarget' : Addressed g' w'.target) {type type' : Option ValueType}
    (hlabel : w.label = type.map ValueType.name) (hlabel' : w'.label = type'.map ValueType.name)
    (heq : edgeLine g w = edgeLine g' w') : w = w' := by
  rw [edgeLine_eq, edgeLine_eq] at heq
  have hspace : CodePoint.scalar ' ' ∈ separators := by decide
  have hcolon : CodePoint.scalar ':' ∈ separators := by decide
  -- The first space ends the address of the source.
  have hcut : address g w.source ++ CodePoint.scalar ' ' ::
        ("-> " ++ (address g w.target ++ labelPart w.label)) =
      address g' w'.source ++ CodePoint.scalar ' ' ::
        ("-> " ++ (address g' w'.target ++ labelPart w'.label)) := by
    simpa [Text.ofString] using heq
  obtain ⟨hs, hrest⟩ := Text.eq_of_cut_eq (hsource.notMem hspace (by decide))
    (hsource'.notMem hspace (by decide)) hcut
  have htail := List.append_cancel_left hrest
  rw [hlabel, hlabel'] at htail
  obtain ⟨ht, htype⟩ := labelPart_cancel (htarget.notMem hcolon (by decide))
    (htarget'.notMem hcolon (by decide)) htail
  obtain ⟨source, target, label⟩ := w
  obtain ⟨source', target', label'⟩ := w'
  obtain rfl : source = source' := hsource.id_eq hsource' hs
  obtain rfl : target = target' := htarget.id_eq htarget' ht
  obtain rfl : label = label' := hlabel.trans (htype.trans hlabel'.symm)
  rfl

end Script
end JqFlow
