import JqFlow.Proofs.Drawing.Scopes
import JqFlow.Proofs.Script.Lines

/-!
# What a script keeps of a graph

The script of the graph of a query tells the graph: its elements with their ids, nesting, shapes,
labels and details, and its edges with their labels, in order. Only newlines of texts that would be
taken for ones with a variable in them become spaces.

## Main definitions

- `Graph.kept`: what a script keeps of a graph
- `Element.Telling`: does the detail of an element add something to its label?

## Main statements

- `Script.declareAll_cancel`: elements can be told from the lines that declare them
- `Graph.kept_of_script?`: graphs of queries with the same script are the same, as far as they are
  kept

## Design notes

Lines are told apart by their last code point. An element is opened by a brace and closed by one,
labels and details end in quotation marks, and shapes in letters. So no label can be taken for the
beginning or the end of an element.
-/

namespace JqFlow

mutual

/-- What a script keeps of an element. -/
def Element.kept : Element → Element
  | .node id label shape detail =>
    .node id (Script.kept label) shape (detail.map Script.kept)
  | .container id label children detail =>
    .container id (Script.kept label) (keptList children) (detail.map Script.kept)

/-- What a script keeps of several elements. -/
def Element.keptList : List Element → List Element
  | [] => []
  | e :: es => kept e :: keptList es

end

/-- What a script keeps of a graph. -/
def Graph.kept (g : Graph) : Graph :=
  { g with elements := Element.keptList g.elements }

/-- Has an element no detail, or one that adds something to its label? -/
def Element.Telling (e : Element) : Prop :=
  ∀ detail, e.detail = some detail → detail ≠ [] ∧ detail ≠ e.label

namespace Script

/-! ### The last code points of lines -/

/-- Does a line open an element? -/
def Opens (l : Text) : Prop :=
  l.getLast? = some (.scalar '\x7b')

/-- Does a line open or close an element? -/
def EndsBraced (l : Text) : Prop :=
  Opens l ∨ l.getLast? = some (.scalar '\x7d')

/-- Does a line end in a quotation mark? -/
def EndsQuoted (l : Text) : Prop :=
  l.getLast? = some (.scalar '\'') ∨ l.getLast? = some (.scalar '"')

theorem getLast?_append_text (s : Text) {t : Text} (h : t ≠ []) :
    (s ++ t).getLast? = t.getLast? := by
  rw [List.getLast?_append, List.getLast?_eq_some_getLast h]
  rfl

theorem endsQuoted_quote (s t : Text) : EndsQuoted (s ++ quote t) := by
  have hne : quote t ≠ [] := by
    intro h
    rcases getLast?_quote t with hlast | hlast <;> rw [h] at hlast <;> exact absurd hlast (by simp)
  rw [EndsQuoted, getLast?_append_text s hne]
  exact getLast?_quote t

theorem not_endsQuoted_of_endsBraced {l : Text} (h : EndsBraced l) : ¬EndsQuoted l := by
  rcases h with h | h
  · rw [EndsQuoted, h]
    decide
  · rw [EndsQuoted, h]
    decide

theorem shape_eq_of_name_eq {shape shape' : Shape} (h : shape.name = shape'.name) :
    shape = shape' := by
  cases shape <;> cases shape' <;> first | rfl | exact absurd h (by decide)

/-! ### Elements and their lines -/

/-- The line that opens an element. -/
def opening (depth : Nat) (id : Id) : Text := indent depth ++ id ++ ": \x7b"

/-- The line that closes an element. -/
def closing (depth : Nat) : Text := indent depth ++ "\x7d"

/-- The line with the shape of a node. -/
def shapeLine (depth : Nat) (shape : Shape) : Text := indent depth ++ "shape: " ++ shape.name

theorem opens_opening (depth : Nat) (id : Id) : Opens (opening depth id) :=
  getLast?_append_text _ (by decide)

theorem getLast?_closing (depth : Nat) : (closing depth).getLast? = some (.scalar '\x7d') :=
  getLast?_append_text _ (by decide)

theorem not_opens_closing (depth : Nat) : ¬Opens (closing depth) := by
  rw [Opens, getLast?_closing]
  decide

theorem not_ends_shapeLine (depth : Nat) (shape : Shape) :
    ¬EndsQuoted (shapeLine depth shape) ∧ ¬EndsBraced (shapeLine depth shape) := by
  rw [EndsQuoted, EndsBraced, Opens, shapeLine,
    getLast?_append_text _ (by cases shape <;> decide)]
  cases shape <;> decide

/-- The lines between the head of an element and its end. -/
def inside (depth : Nat) : Element → List Text
  | .node _ _ shape _ => [shapeLine (depth + 1) shape]
  | .container _ _ children _ => declareAll (depth + 1) children

theorem declare_append (depth : Nat) (e : Element) (rest : List Text) :
    declare depth e ++ rest =
      opening depth e.id :: (indent (depth + 1) ++ "label: " ++ quote e.label) ::
        (tooltip (depth + 1) e ++ (inside depth e ++ closing depth :: rest)) := by
  cases e <;> simp [declare, block, inside, opening, closing, shapeLine]

/-- The first line of several elements opens the first of them. -/
theorem head_declareAll (depth : Nat) (e : Element) (es : List Element) (rest : List Text) :
    ∃ l ls, declareAll depth (e :: es) ++ rest = l :: ls ∧ Opens l := by
  rw [declareAll, List.append_assoc, declare_append]
  exact ⟨_, _, rfl, opens_opening depth e.id⟩

/-- The first line inside a container opens an element or closes the container. -/
theorem head_children (depth : Nat) (es : List Element) (rest : List Text) :
    ∃ l ls, declareAll (depth + 1) es ++ closing depth :: rest = l :: ls ∧ EndsBraced l := by
  cases es with
  | nil => exact ⟨_, _, rfl, .inr (getLast?_closing depth)⟩
  | cons e es =>
    obtain ⟨l, ls, hl, hopens⟩ := head_declareAll (depth + 1) e es (closing depth :: rest)
    exact ⟨l, ls, hl, .inl hopens⟩

/-- The line after the label and the detail of an element ends in no quotation mark. -/
theorem head_inside (depth : Nat) (e : Element) (rest : List Text) :
    ∃ l ls, inside depth e ++ closing depth :: rest = l :: ls ∧ ¬EndsQuoted l := by
  cases e with
  | node _ _ shape _ => exact ⟨_, _, rfl, (not_ends_shapeLine _ shape).1⟩
  | container _ _ children _ =>
    obtain ⟨l, ls, hl, hbraced⟩ := head_children depth children rest
    exact ⟨l, ls, hl, not_endsQuoted_of_endsBraced hbraced⟩

/-- A node has other lines than a container. -/
theorem shapeLine_ne_children (depth : Nat) (shape : Shape) (es : List Element)
    (rest rest' : List Text) :
    shapeLine (depth + 1) shape :: rest ≠ declareAll (depth + 1) es ++ closing depth :: rest' := by
  obtain ⟨l, ls, hl, hbraced⟩ := head_children depth es rest'
  intro h
  rw [hl] at h
  rw [← List.head_eq_of_cons_eq h] at hbraced
  exact (not_ends_shapeLine _ shape).2 hbraced

theorem tooltip_of_telling (depth : Nat) {e : Element} (h : e.Telling) :
    tooltip depth e =
      (e.detail.map fun detail => indent depth ++ "tooltip: " ++ quote detail).toList := by
  rw [tooltip]
  cases hdetail : e.detail with
  | none => rfl
  | some detail =>
    obtain ⟨hne, hlabel⟩ := h detail hdetail
    simp [hne, hlabel]

/-- A detail can be told from its line, and that there is none from the line in its place. -/
theorem tooltip_cancel (depth : Nat) {e e' : Element} (he : e.Telling) (he' : e'.Telling)
    {l l' : Text} {ls ls' : List Text} (hl : ¬EndsQuoted l) (hl' : ¬EndsQuoted l')
    (h : tooltip depth e ++ l :: ls = tooltip depth e' ++ l' :: ls') :
    e.detail.map kept = e'.detail.map kept ∧ l :: ls = l' :: ls' := by
  rw [tooltip_of_telling depth he, tooltip_of_telling depth he'] at h
  cases hdetail : e.detail with
  | none =>
    cases hdetail' : e'.detail with
    | none =>
      rw [hdetail, hdetail'] at h
      exact ⟨rfl, h⟩
    | some detail' =>
      rw [hdetail, hdetail'] at h
      exact absurd (List.head_eq_of_cons_eq h ▸ endsQuoted_quote _ detail') hl
  | some detail =>
    cases hdetail' : e'.detail with
    | none =>
      rw [hdetail, hdetail'] at h
      exact absurd (List.head_eq_of_cons_eq h ▸ endsQuoted_quote _ detail) hl'
    | some detail' =>
      rw [hdetail, hdetail'] at h
      obtain ⟨hline, hrest⟩ := List.cons.inj h
      have hquote := List.append_cancel_left hline
      exact ⟨congrArg some (kept_eq_of_quote_eq hquote), hrest⟩

/-- Does the first of several lines open no element? -/
def NoneOpens (rest : List Text) : Prop :=
  ∀ l ls, rest = l :: ls → ¬Opens l

theorem noneOpens_closing (depth : Nat) (rest : List Text) :
    NoneOpens (closing depth :: rest) := by
  intro l ls h
  rw [← List.head_eq_of_cons_eq h]
  exact not_opens_closing depth

theorem noneOpens_ne {rest : List Text} (h : NoneOpens rest) (depth : Nat) (e : Element)
    (es : List Element) (rest' : List Text) : declareAll depth (e :: es) ++ rest' ≠ rest := by
  obtain ⟨l, ls, hl, hopens⟩ := head_declareAll depth e es rest'
  intro heq
  exact h l ls (heq.symm.trans hl) hopens

mutual

/-- An element can be told from its lines, whatever follows. -/
theorem declare_cancel (e e' : Element) (depth : Nat) {outer outer' : List Id}
    (he : ∀ x ∈ e.preorder outer, x.2.Telling) (he' : ∀ x ∈ e'.preorder outer', x.2.Telling)
    {rest rest' : List Text} (h : declare depth e ++ rest = declare depth e' ++ rest') :
    e.kept = e'.kept ∧ rest = rest' := by
  have hself : e.Telling := by cases e <;> exact he _ List.mem_cons_self
  have hself' : e'.Telling := by cases e' <;> exact he' _ List.mem_cons_self
  rw [declare_append, declare_append] at h
  obtain ⟨hopening, h⟩ := List.cons.inj h
  obtain ⟨hlabel, h⟩ := List.cons.inj h
  have hid : e.id = e'.id := List.append_cancel_left (List.append_cancel_right hopening)
  have hkept : kept e.label = kept e'.label :=
    kept_eq_of_quote_eq (List.append_cancel_left hlabel)
  -- Only a detail ends in a quotation mark here, so it is seen whether there is one.
  obtain ⟨hdetail, h⟩ : e.detail.map kept = e'.detail.map kept ∧
      inside depth e ++ closing depth :: rest = inside depth e' ++ closing depth :: rest' := by
    obtain ⟨l, ls, hl, hquoted⟩ := head_inside depth e rest
    obtain ⟨l', ls', hl', hquoted'⟩ := head_inside depth e' rest'
    rw [hl, hl'] at h ⊢
    exact tooltip_cancel (depth + 1) hself hself' hquoted hquoted' h
  cases e with
  | node id label shape detail =>
    cases e' with
    | node id' label' shape' detail' =>
      obtain ⟨hshape, hclosed⟩ := List.cons.inj h
      obtain rfl := shape_eq_of_name_eq (List.append_cancel_left hshape)
      obtain rfl : id = id' := hid
      refine ⟨?_, List.tail_eq_of_cons_eq hclosed⟩
      rw [Element.kept, Element.kept]
      exact congrArg₂ (Element.node id · shape ·) hkept hdetail
    | container => exact absurd h (shapeLine_ne_children depth shape _ _ _)
  | container id label children detail =>
    cases e' with
    | node _ _ shape' _ => exact absurd h.symm (shapeLine_ne_children depth shape' _ _ _)
    | container id' label' children' detail' =>
      obtain ⟨hchildren, hclosed⟩ := declareAll_cancel children children' (depth + 1)
        (fun x hx => he x (List.mem_cons_of_mem _ hx))
        (fun x hx => he' x (List.mem_cons_of_mem _ hx))
        (noneOpens_closing depth rest) (noneOpens_closing depth rest') h
      obtain rfl : id = id' := hid
      refine ⟨?_, List.tail_eq_of_cons_eq hclosed⟩
      rw [Element.kept, Element.kept, hchildren]
      exact congrArg₂ (Element.container id · _ ·) hkept hdetail

/-- Elements can be told from the lines that declare them, if no element is opened after them. -/
theorem declareAll_cancel (es es' : List Element) (depth : Nat) {outer outer' : List Id}
    (hes : ∀ x ∈ Element.preorderList outer es, x.2.Telling)
    (hes' : ∀ x ∈ Element.preorderList outer' es', x.2.Telling) {rest rest' : List Text}
    (hrest : NoneOpens rest) (hrest' : NoneOpens rest')
    (h : declareAll depth es ++ rest = declareAll depth es' ++ rest') :
    Element.keptList es = Element.keptList es' ∧ rest = rest' := by
  cases es with
  | nil =>
    cases es' with
    | nil => exact ⟨rfl, h⟩
    | cons e' es' => exact absurd h.symm (noneOpens_ne hrest depth e' es' rest')
  | cons e es =>
    cases es' with
    | nil => exact absurd h (noneOpens_ne hrest' depth e es rest)
    | cons e' es' =>
      rw [declareAll, declareAll, List.append_assoc, List.append_assoc] at h
      obtain ⟨hfirst, hlines⟩ := declare_cancel e e' depth
        (fun x hx => hes x (List.mem_append_left _ hx))
        (fun x hx => hes' x (List.mem_append_left _ hx)) h
      obtain ⟨hothers, hlines⟩ := declareAll_cancel es es' depth
        (fun x hx => hes x (List.mem_append_right _ hx))
        (fun x hx => hes' x (List.mem_append_right _ hx)) hrest hrest' hlines
      refine ⟨?_, hlines⟩
      rw [Element.keptList, Element.keptList, hfirst, hothers]

end

/-! ### Lines hold no newlines -/

theorem oneLine_indent (depth : Nat) : OneLine (indent depth) := by
  intro h
  exact absurd (List.eq_of_mem_replicate h) (by decide)

theorem oneLine_header (title : Text) {direction : Text} (h : OneLine direction) :
    ∀ l ∈ header title direction, OneLine l := by
  simp only [header, List.forall_mem_cons]
  refine ⟨by decide, OneLine.append (by decide) (oneLine_quote title), by decide, by decide,
    by decide, by decide, OneLine.append (by decide) h, by decide, ?_⟩
  exact fun _ hl => absurd hl List.not_mem_nil

theorem oneLine_tooltip (depth : Nat) (e : Element) : ∀ l ∈ tooltip depth e, OneLine l := by
  intro l hl
  rw [tooltip] at hl
  split at hl
  · split at hl
    · exact absurd hl List.not_mem_nil
    · rw [List.mem_singleton.mp hl]
      exact ((oneLine_indent depth).append (by decide)).append (oneLine_quote _)
  · exact absurd hl List.not_mem_nil

theorem oneLine_block (depth : Nat) {e : Element} (hid : OneLine e.id) {lines : List Text}
    (hlines : ∀ l ∈ lines, OneLine l) : ∀ l ∈ block depth e lines, OneLine l := by
  have hopening : OneLine (opening depth e.id) :=
    ((oneLine_indent depth).append hid).append (by decide)
  have hlabel : OneLine (indent (depth + 1) ++ "label: " ++ quote e.label) :=
    ((oneLine_indent (depth + 1)).append (by decide)).append (oneLine_quote e.label)
  have hclosing : OneLine (closing depth) := (oneLine_indent depth).append (by decide)
  intro l hl
  rcases List.mem_append.mp hl with hl | hl
  · rcases List.mem_append.mp hl with hl | hl
    · rcases List.mem_cons.mp hl with rfl | hl
      · exact hopening
      rcases List.mem_cons.mp hl with rfl | hl
      · exact hlabel
      · exact oneLine_tooltip (depth + 1) e l hl
    · exact hlines l hl
  · rw [List.mem_singleton.mp hl]
    exact hclosing

mutual

theorem oneLine_declare (e : Element) (depth : Nat) {outer : List Id}
    (he : ∀ x ∈ e.preorder outer, OneLine x.2.id) : ∀ l ∈ declare depth e, OneLine l := by
  cases e with
  | node id label shape detail =>
    refine oneLine_block depth (he _ List.mem_cons_self) fun l hl => ?_
    rw [List.mem_singleton.mp hl]
    exact ((oneLine_indent (depth + 1)).append (by decide)).append (by cases shape <;> decide)
  | container id label children detail =>
    exact oneLine_block depth (he _ List.mem_cons_self)
      (oneLine_declareAll children (depth + 1) fun x hx => he x (List.mem_cons_of_mem _ hx))

/-- The lines that declare elements hold no newlines if the ids hold none. -/
theorem oneLine_declareAll (es : List Element) (depth : Nat) {outer : List Id}
    (hes : ∀ x ∈ Element.preorderList outer es, OneLine x.2.id) :
    ∀ l ∈ declareAll depth es, OneLine l := by
  intro l hl
  cases es with
  | nil => exact absurd hl List.not_mem_nil
  | cons e es =>
    rcases List.mem_append.mp hl with hl | hl
    · exact oneLine_declare e depth (fun x hx => hes x (List.mem_append_left _ hx)) l hl
    · exact oneLine_declareAll es depth (fun x hx => hes x (List.mem_append_right _ hx)) l hl

end

theorem Bare.oneLine {t : Text} (h : Bare t) : OneLine t :=
  fun hmem => h _ hmem (by decide)

end Script

/-! ### Legible graphs -/

namespace Graph

open Script (Bare OneLine Addressed)

/-- A graph whose ids hold nothing that stands between ids, whose details add something to labels
and whose edges connect declared elements and are labelled with names of types. -/
structure Legible (g : Graph) : Prop where
  bare : ∀ e ∈ g.nodes, Bare e.id
  telling : ∀ e ∈ g.nodes, e.Telling
  source : ∀ w ∈ g.edges, g.contains w.source
  target : ∀ w ∈ g.edges, g.contains w.target
  label : ∀ w ∈ g.edges, ∃ type : Option ValueType, w.label = type.map ValueType.name

namespace Legible

variable {g g' : Graph}

theorem loose?_eq (h : g.Legible) : g.loose? = none := by
  rw [loose?, List.find?_eq_none]
  intro id hid
  obtain ⟨w, hw, hid⟩ := List.mem_flatMap.mp hid
  have hcontains : g.contains id = true := by
    rcases List.mem_cons.mp hid with rfl | hid
    · exact h.source w hw
    · rw [List.mem_singleton.mp hid]
      exact h.target w hw
  simp [hcontains]

/-- A legible graph has a script. -/
theorem script?_eq (h : g.Legible) (title direction : Text) :
    g.script? title direction = .ok (g.script title direction) := by
  rw [script?, h.loose?_eq]

theorem oneLine (h : g.Legible) (title : Text) {direction : Text} (hdirection : OneLine direction) :
    ∀ l ∈ g.scriptLines title direction, OneLine l := by
  intro l hl
  rcases List.mem_append.mp hl with hl | hl
  · rcases List.mem_append.mp hl with hl | hl
    · rcases List.mem_append.mp hl with hl | hl
      · exact Script.oneLine_header title hdirection l hl
      · have hids : ∀ x ∈ Element.preorderList [] g.elements, OneLine x.2.id := by
          intro x hx
          rw [← walk_eq_preorder] at hx
          exact (h.bare x.2 (List.mem_map.mpr ⟨x, hx, rfl⟩)).oneLine
        exact Script.oneLine_declareAll g.elements 0 hids l hl
    · rw [List.mem_singleton.mp hl]
      decide
  · obtain ⟨w, hw, rfl⟩ := List.mem_map.mp hl
    exact Script.oneLine_edgeLine (Script.addressed_of_contains h.bare (h.source w hw))
      (Script.addressed_of_contains h.bare (h.target w hw))

/-- Legible graphs with the same lines for their edges have the same edges. -/
theorem edges_eq (h : g.Legible) (h' : g'.Legible)
    (heq : g.edges.map (Script.edgeLine g) = g'.edges.map (Script.edgeLine g')) :
    g.edges = g'.edges := by
  have hlines : List.Forall₂ (fun w w' => Script.edgeLine g w = Script.edgeLine g' w')
      g.edges g'.edges := by
    rw [← List.forall₂_eq_eq_eq, List.forall₂_map_left_iff, List.forall₂_map_right_iff] at heq
    exact heq
  refine List.forall₂_eq_eq_eq ▸ List.forall₂_iff_get.mpr ⟨hlines.length_eq, ?_⟩
  intro i hi hi'
  have hw := List.get_mem g.edges ⟨i, hi⟩
  have hw' := List.get_mem g'.edges ⟨i, hi'⟩
  obtain ⟨type, hlabel⟩ := h.label _ hw
  obtain ⟨type', hlabel'⟩ := h'.label _ hw'
  exact Script.edge_eq_of_line_eq (Script.addressed_of_contains h.bare (h.source _ hw))
    (Script.addressed_of_contains h.bare (h.target _ hw))
    (Script.addressed_of_contains h'.bare (h'.source _ hw'))
    (Script.addressed_of_contains h'.bare (h'.target _ hw')) hlabel hlabel'
    (hlines.get hi hi')

/-- Legible graphs with the same script are the same, as far as they are kept. -/
theorem kept_of_script_eq (h : g.Legible) (h' : g'.Legible) {title title' direction : Text}
    (hdirection : OneLine direction)
    (heq : g.script title direction = g'.script title' direction) :
    Element.keptList g.elements = Element.keptList g'.elements ∧ g.edges = g'.edges ∧
      Script.kept title = Script.kept title' := by
  have hlines := scriptLines_eq (h.oneLine title hdirection) (h'.oneLine title' hdirection) heq
  have htelling {g : Graph} (h : g.Legible) :
      ∀ x ∈ Element.preorderList [] g.elements, x.2.Telling := by
    intro x hx
    rw [← walk_eq_preorder] at hx
    exact h.telling x.2 (List.mem_map.mpr ⟨x, hx, rfl⟩)
  -- An empty line comes after the elements.
  have hnone (rest : List Text) : Script.NoneOpens ([] :: rest) := by
    intro l ls hl
    rw [← List.head_eq_of_cons_eq hl, Script.Opens]
    decide
  simp only [scriptLines, List.append_assoc] at hlines
  obtain ⟨hheader, hbody⟩ := List.append_inj hlines rfl
  obtain ⟨helements, hedges⟩ := Script.declareAll_cancel g.elements g'.elements 0 (htelling h)
    (htelling h') (hnone _) (hnone _) hbody
  refine ⟨helements, h.edges_eq h' (List.tail_eq_of_cons_eq hedges), ?_⟩
  have hline := List.head_eq_of_cons_eq (List.tail_eq_of_cons_eq hheader)
  exact Script.kept_eq_of_quote_eq (List.append_cancel_left hline)

end Legible

/-! ### Graphs of queries are legible -/

theorem bare_nodeId (n : Nat) : Bare (Builder.nodeId n) :=
  Script.bare_append (by decide) (Script.bare_ofNat n)

theorem bare_endIdOf (n : Nat) : Bare (endIdOf n) :=
  Script.bare_append (by decide) (Script.bare_ofNat n)

/-- The label of a call is shorter than its detail. -/
theorem part_telling (part : Part) {detail : Text} (h : part.detail = some detail) :
    detail ≠ [] ∧ detail ≠ part.label := by
  match part, h with
  | .query (.call name args), h =>
    obtain rfl : Text.ofString "Function: " ++ name = detail := Option.some.inj h
    refine ⟨by simp [Text.ofString], fun heq => ?_⟩
    have hlength := congrArg List.length heq
    simp [Part.label, functionTitle, Text.ofString] at hlength
    omega

theorem contains_of_hasIn {g : Graph} {outer : List Id} {id : Id} (h : HasIn g.walk outer id) :
    g.contains id := by
  obtain ⟨e, he, rfl⟩ := h
  exact List.any_eq_true.mpr ⟨e, List.mem_map.mpr ⟨_, he, rfl⟩, decide_eq_true rfl⟩

theorem build_legible (q : Query) (expand : Bool) : (build (some q) expand).Legible where
  bare := by
    intro e he
    have hid : e.id ∈ (build (some q) expand).ids := List.mem_map.mpr ⟨e, he, rfl⟩
    rw [(build_elements q expand).2.1] at hid
    rcases List.mem_append.mp hid with hid | hid
    · rcases List.mem_cons.mp hid with hid | hid
      · rw [hid]
        decide
      · obtain ⟨k, -, -, hk⟩ := mem_nodeIds.mp hid
        rw [← hk]
        exact bare_nodeId k
    · rw [List.mem_singleton.mp hid]
      exact bare_endIdOf _
  telling := by
    intro e he detail hdetail
    have htexts : (e.label, e.detail) ∈
        (build (some q) expand).nodes.map fun e => (e.label, e.detail) :=
      List.mem_map.mpr ⟨e, he, rfl⟩
    rw [texts_build, hdetail] at htexts
    rcases List.mem_append.mp htexts with htexts | htexts
    · rcases List.mem_cons.mp htexts with htexts | htexts
      · exact absurd (Prod.mk.inj htexts).2 (by simp)
      · obtain ⟨part, -, hpart⟩ := List.mem_map.mp htexts
        obtain ⟨hlabel, hpart⟩ := Prod.mk.inj hpart
        rw [← hlabel]
        exact part_telling part hpart
    · exact absurd (Prod.mk.inj (List.mem_singleton.mp htexts)).2 (by simp)
  source := by
    intro w hw
    obtain ⟨outer, hsource, -⟩ := build_keepsScope q expand w hw
    exact contains_of_hasIn hsource
  target := by
    intro w hw
    obtain ⟨outer, -, htarget | htarget⟩ := build_keepsScope q expand w hw
    · exact contains_of_hasIn htarget
    · exact contains_of_hasIn htarget
  label := fun w hw => (build_linked q expand w hw).2

/-- The graph of no query is that of a pipe with nothing on either side. -/
theorem exists_build_of_build? {q : Option Query} {expand : Bool} {g : Graph}
    (h : build? q expand = .ok g) : ∃ q, g = build (some q) expand := by
  rw [eq_build_of_build? h]
  cases q with
  | none => exact ⟨.operation .pipe none none, rfl⟩
  | some q => exact ⟨q, rfl⟩

theorem keptList_append (es es' : List Element) :
    Element.keptList (es ++ es') = Element.keptList es ++ Element.keptList es' := by
  induction es with
  | nil => rfl
  | cons e es ih => rw [List.cons_append, Element.keptList, Element.keptList, ih, List.cons_append]

/-- The end node of the graph of a query is the last of its elements. -/
theorem build_endId_eq {q q' : Query} {expand expand' : Bool}
    (h : Element.keptList (build (some q) expand).elements =
      Element.keptList (build (some q') expand').elements) :
    (build (some q) expand).endId = (build (some q') expand').endId := by
  obtain ⟨helements, -, hend⟩ := build_elements q expand
  obtain ⟨helements', -, hend'⟩ := build_elements q' expand'
  rw [helements, helements', keptList_append, keptList_append] at h
  have hlast := (List.append_inj' h rfl).2
  rw [hend, hend']
  exact congrArg Element.id (List.head_eq_of_cons_eq hlast)

/-- Graphs of queries that have the same script are the same with all that is in them, and so are
the titles, as far as they are kept. -/
theorem kept_of_script? {q q' : Option Query} {expand expand' : Bool} {g g' : Graph}
    {title title' : Text} (h : build? q expand = .ok g) (h' : build? q' expand' = .ok g')
    (heq : g.script? title = g'.script? title') :
    g.kept = g'.kept ∧ Script.kept title = Script.kept title' := by
  obtain ⟨q, rfl⟩ := exists_build_of_build? h
  obtain ⟨q', rfl⟩ := exists_build_of_build? h'
  have hlegible := build_legible q expand
  have hlegible' := build_legible q' expand'
  rw [hlegible.script?_eq, hlegible'.script?_eq] at heq
  obtain ⟨helements, hedges, htitle⟩ := hlegible.kept_of_script_eq hlegible' (by decide)
    (Except.ok.inj heq)
  refine ⟨?_, htitle⟩
  rw [kept, kept, helements, hedges, build_endId_eq helements]

/-- Where a title would be taken for one with a variable in it, a newline is written as a space. -/
theorem kept_of_script?_title :
    build? (some .identity) false = .ok (build (some .identity) false) ∧
    (build (some .identity) false).script? "$\x7b\n" =
      (build (some .identity) false).script? "$\x7b " ∧
    Script.kept "$\x7b\n" = Script.kept "$\x7b " := by
  have hbuild : build? (some .identity) false = .ok (build (some .identity) false) := rfl
  have hquote : Script.quote "$\x7b\n" = Script.quote "$\x7b " := by decide
  have hscript : (build (some .identity) false).script? "$\x7b\n" =
      (build (some .identity) false).script? "$\x7b " := by
    rw [(build_legible .identity false).script?_eq, (build_legible .identity false).script?_eq,
      script, script, Script.header, Script.header, hquote]
  exact ⟨hbuild, hscript, (kept_of_script? hbuild hbuild hscript).2⟩

end Graph
end JqFlow
