import JqFlow.Proofs.Drawing.Elements
import Mathlib.Algebra.GroupWithZero.Nat
import Mathlib.Data.List.Forall2

/-!
# What the elements of a drawing are drawn for

Elements are numbered in the order in which they are drawn. Each is drawn for a part of the query,
except the container around the value of an object's entry, which is drawn for the key.

## Main definitions

- `Query.drawn`: the parts of a query that elements are drawn for, in the order of their numbers
- `Query.partIds`: the ids drawn for each argument of a call and each entry of an object
- `flowAll`: the figures of a flow in the order of their numbers

## Main statements

- `Query.drawn_flowAll`: the figures of a query are drawn for its parts, one for one
- `Graph.texts_build`: the labels and details of the graph of a query are those of its parts
-/

namespace JqFlow

open Builder (nodeId)

/-! ### The figures in order -/

mutual

/-- A figure and those inside it, each before what is inside it. -/
def Figure.all : Figure → List Figure
  | .mark label type => [.mark label type]
  | .fork label type operands => .fork label type operands :: branchAll operands
  | .box label detail type branches => .box label detail type branches :: branchAll branches

/-- The figures of a flow, and those inside them. -/
def flowAll : List Figure → List Figure
  | [] => []
  | f :: fs => f.all ++ flowAll fs

/-- The figures of several flows, one flow after another. -/
def branchAll : List (List Figure) → List Figure
  | [] => []
  | flow :: flows => flowAll flow ++ branchAll flows

end

mutual

@[simp] theorem Figure.length_all (f : Figure) : f.all.length = f.size := by
  cases f with
  | mark => rfl
  | fork _ _ operands =>
    rw [Figure.all, List.length_cons, length_branchAll operands, Figure.size, Nat.add_comm]
  | box _ _ _ branches =>
    rw [Figure.all, List.length_cons, length_branchAll branches, Figure.size, Nat.add_comm]

@[simp] theorem length_flowAll (fs : List Figure) : (flowAll fs).length = flowSize fs := by
  cases fs with
  | nil => rfl
  | cons f fs => rw [flowAll, List.length_append, f.length_all, length_flowAll fs, flowSize]

@[simp] theorem length_branchAll (flows : List (List Figure)) :
    (branchAll flows).length = branchSize flows := by
  cases flows with
  | nil => rfl
  | cons flow flows =>
    rw [branchAll, List.length_append, length_flowAll flow, length_branchAll flows, branchSize]

end

theorem flowAll_append (fs gs : List Figure) : flowAll (fs ++ gs) = flowAll fs ++ flowAll gs := by
  induction fs with
  | nil => rfl
  | cons f fs ih => rw [List.cons_append, flowAll, flowAll, ih, List.append_assoc]

theorem flowAll_single (f : Figure) : flowAll [f] = f.all := by
  rw [flowAll, flowAll, List.append_nil]

theorem branchAll_append (flows flows' : List (List Figure)) :
    branchAll (flows ++ flows') = branchAll flows ++ branchAll flows' := by
  induction flows with
  | nil => rfl
  | cons flow flows ih => rw [List.cons_append, branchAll, branchAll, ih, List.append_assoc]

/-! ### The parts in order -/

/-- What an element is drawn for: a query, or the key of an entry of an object. -/
inductive Part
  | query (q : Query)
  | key (text : Text)

namespace Part

/-- The label of the element that is drawn for a part. -/
def label : Part → Text
  | query (.call name _) => functionTitle name
  | query q => q.title
  | key text => objectKeyTitle text

/-- The detail of the element that is drawn for a part. Only a call has one. -/
def detail : Part → Option Text
  | query (.call name args) => some (Query.call name args).title
  | _ => none

/-- The type of the values of a part, where it can be told. A key has none. -/
def outputType? : Part → Option ValueType
  | query q => q.outputType?
  | key _ => none

end Part

namespace Query

mutual

/-- The parts of a query that elements are drawn for, in the order of their numbers. -/
def drawn (expand : Bool) : Query → List Part
  | operation .pipe l r => drawnOption expand l ++ drawnOption expand r
  | operation op l r => .query (operation op l r) :: (drawnOption expand l ++ drawnOption expand r)
  | unary op operand => .query (unary op operand) :: drawn expand operand
  | call name args => .query (call name args) :: drawnArgs expand args
  | array body => .query (array body) :: drawnOption expand body
  | object entries => .query (object entries) :: drawnEntries expand entries
  | bind source name body =>
    drawn expand source ++ .query (bind source name body) :: drawn expand body
  | group body => .query (group body) :: if expand then drawn expand body else []
  | q => [.query q]

/-- The parts of a query that may be absent. -/
def drawnOption (expand : Bool) : Option Query → List Part
  | none => []
  | some q => drawn expand q

/-- The parts of arguments, each without its parentheses. -/
def drawnArgs (expand : Bool) : List Query → List Part
  | [] => []
  | group q :: args => drawn expand q ++ drawnArgs expand args
  | q :: args => drawn expand q ++ drawnArgs expand args

/-- The parts of entries: for each its key and those of its value without parentheses. -/
def drawnEntries (expand : Bool) : List (Entry Query) → List Part
  | [] => []
  | ⟨key, group value, _⟩ :: entries =>
    .key key :: drawn expand value ++ drawnEntries expand entries
  | ⟨key, value, _⟩ :: entries => .key key :: drawn expand value ++ drawnEntries expand entries

end

theorem drawnArgs_cons (expand : Bool) (q : Query) (args : List Query) :
    drawnArgs expand (q :: args) = drawn expand q.unwrapped ++ drawnArgs expand args := by
  cases q <;> rfl

theorem drawnEntries_cons (expand : Bool) (e : Entry Query) (entries : List (Entry Query)) :
    drawnEntries expand (e :: entries) =
      .key e.key :: drawn expand e.value.unwrapped ++ drawnEntries expand entries := by
  obtain ⟨key, value, keyExpr⟩ := e
  cases value <;> rfl

theorem drawn_operation (expand : Bool) {op : Operator} (h : op ≠ .pipe) (l r : Option Query) :
    drawn expand (operation op l r) =
      .query (operation op l r) :: (drawnOption expand l ++ drawnOption expand r) := by
  cases op <;> first | rfl | exact absurd rfl h

/-- The figure that is drawn for a query itself. Pipes have none. -/
def figure (expand : Bool) : Query → Figure
  | operation op l r =>
    .fork op.label (operation op l r).outputType? (branchOf expand l ++ branchOf expand r)
  | unary op operand =>
    .fork (unary op operand).title (unary op operand).outputType? [figures expand operand]
  | call name args =>
    .box (functionTitle name) (some (call name args).title) (call name args).outputType?
      (argFigures expand args)
  | array body => .box (array body).title none (array body).outputType? (branchOf expand body)
  | object entries =>
    .box (object entries).title none (object entries).outputType? (entryFigures expand entries)
  | group body =>
    if expand then .box (group body).title none none [figures expand body]
    else .mark (group body).title (group body).outputType?
  | q => .mark q.title q.outputType?

end Query

/-- Is a figure drawn for a part of a query? -/
def Figure.IsDrawnFor (expand : Bool) : Part → Figure → Prop
  | .query q, f => f = q.figure expand
  | .key key, f => ∃ flow, f = .box (objectKeyTitle key) none none [flow]

namespace Query

open List (Forall₂ rel_append)
open Figure (IsDrawnFor)

mutual

/-- The figures of a query are drawn for its parts, one for one. -/
theorem drawn_flowAll (expand : Bool) (q : Query) :
    Forall₂ (IsDrawnFor expand) (q.drawn expand) (flowAll (q.figures expand)) := by
  cases q with
  | operation op l r =>
    by_cases hop : op = .pipe
    · subst hop
      rw [drawn, figures, flowAll_append]
      exact rel_append (drawnOption_flowAll expand l) (drawnOption_flowAll expand r)
    · rw [drawn_operation expand hop, figures_operation expand hop, flowAll_single, Figure.all,
        branchAll_append]
      exact .cons rfl (rel_append (drawnOption_branchAll expand l) (drawnOption_branchAll expand r))
  | unary op operand =>
    rw [drawn, figures, flowAll_single, Figure.all, branchAll, branchAll, List.append_nil]
    exact .cons rfl (drawn_flowAll expand operand)
  | call name args =>
    rw [drawn, figures, flowAll_single, Figure.all]
    exact .cons rfl (drawnArgs_branchAll expand args)
  | array body =>
    rw [drawn, figures, flowAll_single, Figure.all]
    exact .cons rfl (drawnOption_branchAll expand body)
  | object entries =>
    rw [drawn, figures, flowAll_single, Figure.all]
    exact .cons rfl (drawnEntries_branchAll expand entries)
  | bind source name body =>
    rw [drawn, figures, flowAll_append, flowAll, Figure.all]
    exact rel_append (drawn_flowAll expand source) (.cons rfl (drawn_flowAll expand body))
  | group body =>
    rw [drawn, figures]
    cases expand with
    | false => exact .cons rfl .nil
    | true =>
      simp only [if_true]
      rw [flowAll_single, Figure.all, branchAll, branchAll, List.append_nil]
      exact .cons rfl (drawn_flowAll true body)
  | _ => exact .cons rfl .nil

theorem drawnOption_flowAll (expand : Bool) (q : Option Query) :
    Forall₂ (IsDrawnFor expand) (drawnOption expand q) (flowAll (sideFigures expand q)) := by
  cases q with
  | none => exact .nil
  | some q => exact drawn_flowAll expand q

theorem drawnOption_branchAll (expand : Bool) (q : Option Query) :
    Forall₂ (IsDrawnFor expand) (drawnOption expand q) (branchAll (branchOf expand q)) := by
  cases q with
  | none => exact .nil
  | some q =>
    rw [branchOf, branchAll, branchAll, List.append_nil]
    exact drawn_flowAll expand q

theorem drawnArgs_branchAll (expand : Bool) (args : List Query) :
    Forall₂ (IsDrawnFor expand) (drawnArgs expand args) (branchAll (argFigures expand args)) := by
  cases args with
  | nil => exact .nil
  | cons q args =>
    have hq : Forall₂ (IsDrawnFor expand) (drawn expand q.unwrapped)
        (flowAll (figures expand q.unwrapped)) := by
      cases q with
      | group q => exact drawn_flowAll expand q
      | _ => exact drawn_flowAll expand _
    rw [drawnArgs_cons, argFigures_cons, branchAll]
    exact rel_append hq (drawnArgs_branchAll expand args)

theorem drawnEntries_branchAll (expand : Bool) (entries : List (Entry Query)) :
    Forall₂ (IsDrawnFor expand) (drawnEntries expand entries)
      (branchAll (entryFigures expand entries)) := by
  match entries with
  | [] => exact .nil
  | ⟨key, value, keyExpr⟩ :: entries =>
    have hvalue : Forall₂ (IsDrawnFor expand) (drawn expand value.unwrapped)
        (flowAll (figures expand value.unwrapped)) := by
      cases value with
      | group q => exact drawn_flowAll expand q
      | _ => exact drawn_flowAll expand _
    rw [drawnEntries_cons, entryFigures_cons, branchAll, flowAll_single, Figure.all, branchAll,
      branchAll, List.append_nil]
    exact rel_append (.cons ⟨_, rfl⟩ hvalue) (drawnEntries_branchAll expand entries)

end

theorem length_drawn (expand : Bool) (q : Query) :
    (q.drawn expand).length = flowSize (q.figures expand) := by
  rw [(drawn_flowAll expand q).length_eq, length_flowAll]

/-- The figure that has the number of a part is drawn for it. -/
theorem isDrawnFor_of_getElem? {expand : Bool} {q : Query} {k : Nat} {part : Part}
    (h : (q.drawn expand)[k]? = some part) :
    ∃ f, (flowAll (q.figures expand))[k]? = some f ∧ IsDrawnFor expand part f := by
  have hk : k < (q.drawn expand).length := (List.getElem?_eq_some_iff.mp h).1
  have hk' : k < (flowAll (q.figures expand)).length := by
    rwa [← (drawn_flowAll expand q).length_eq]
  refine ⟨_, List.getElem?_eq_getElem hk', ?_⟩
  rw [← (List.getElem?_eq_some_iff.mp h).2]
  exact (drawn_flowAll expand q).get hk hk'

/-- Every figure is drawn for the part that has its number. -/
theorem exists_part {expand : Bool} {q : Query} {k : Nat} {f : Figure}
    (h : (flowAll (q.figures expand))[k]? = some f) :
    ∃ part, (q.drawn expand)[k]? = some part ∧ IsDrawnFor expand part f := by
  have hk : k < (q.drawn expand).length := by
    rw [(drawn_flowAll expand q).length_eq]
    exact (List.getElem?_eq_some_iff.mp h).1
  have hpart := List.getElem?_eq_getElem hk
  obtain ⟨f', hf', hdrawn⟩ := isDrawnFor_of_getElem? hpart
  obtain rfl : f' = f := Option.some.inj (hf'.symm.trans h)
  exact ⟨_, hpart, hdrawn⟩

end Query

/-! ### Labels, details and types -/

/-- The label and the detail of the element of a figure. -/
def Figure.texts : Figure → Text × Option Text
  | mark label _ | fork label _ _ => (label, none)
  | box label detail _ _ => (label, detail)

namespace Figure.IsDrawnFor

variable {expand : Bool} {part : Part} {f : Figure}

theorem texts_eq (h : f.IsDrawnFor expand part) : f.texts = (part.label, part.detail) := by
  cases part with
  | key key =>
    obtain ⟨flow, rfl⟩ := h
    rfl
  | query q =>
    obtain rfl : f = q.figure expand := h
    cases q with
    | group body => cases expand <;> rfl
    | _ => rfl

theorem type_eq (h : f.IsDrawnFor expand part) : f.type = part.outputType? := by
  cases part with
  | key key =>
    obtain ⟨flow, rfl⟩ := h
    rfl
  | query q =>
    obtain rfl : f = q.figure expand := h
    cases q with
    | group body => cases expand <;> rfl
    | _ => rfl

end Figure.IsDrawnFor

theorem Figure.map_texts_eq {expand : Bool} {parts : List Part} {fs : List Figure}
    (h : List.Forall₂ (Figure.IsDrawnFor expand) parts fs) :
    fs.map Figure.texts = parts.map fun part => (part.label, part.detail) := by
  induction h with
  | nil => rfl
  | cons hf _ ih => rw [List.map_cons, List.map_cons, hf.texts_eq, ih]

/-- The labels and details of a forest, each container before what is inside it. -/
def declaredTexts (ancestors : List Id) (es : List Element) : List (Text × Option Text) :=
  (Element.preorderList ancestors es).map fun p => (p.2.label, p.2.detail)

theorem declaredTexts_append (ancestors : List Id) (es es' : List Element) :
    declaredTexts ancestors (es ++ es') =
      declaredTexts ancestors es ++ declaredTexts ancestors es' := by
  simp only [declaredTexts, Element.preorderList_append, List.map_append]

theorem declaredTexts_node (ancestors : List Id) (id label : Text) (shape : Shape)
    (detail : Option Text) (es : List Element) :
    declaredTexts ancestors (.node id label shape detail :: es) =
      (label, detail) :: declaredTexts ancestors es := by
  rfl

theorem declaredTexts_container (ancestors : List Id) (id label : Text) (es : List Element)
    (detail : Option Text) :
    declaredTexts ancestors [.container id label es detail] =
      (label, detail) :: declaredTexts (ancestors ++ [id]) es := by
  simp [declaredTexts, Element.preorderList, Element.preorder, Element.label, Element.detail]

mutual

theorem Figure.declaredTexts_elements (f : Figure) (ancestors : List Id) (n : Nat) :
    declaredTexts ancestors (f.elements n) = f.all.map Figure.texts := by
  cases f with
  | mark => rfl
  | fork label type operands =>
    rw [Figure.elements, declaredTexts_node, declaredTexts_branchElements operands, Figure.all,
      List.map_cons, Figure.texts]
  | box label detail type branches =>
    rw [Figure.elements, declaredTexts_container, declaredTexts_branchElements branches,
      Figure.all, List.map_cons, Figure.texts]

theorem declaredTexts_flowElements (fs : List Figure) (ancestors : List Id) (n : Nat) :
    declaredTexts ancestors (flowElements n fs) = (flowAll fs).map Figure.texts := by
  cases fs with
  | nil => rfl
  | cons f fs =>
    rw [flowElements, declaredTexts_append, Figure.declaredTexts_elements f,
      declaredTexts_flowElements fs, flowAll, List.map_append]

theorem declaredTexts_branchElements (flows : List (List Figure)) (ancestors : List Id)
    (n : Nat) :
    declaredTexts ancestors (branchElements n flows) = (branchAll flows).map Figure.texts := by
  cases flows with
  | nil => rfl
  | cons flow flows =>
    rw [branchElements, declaredTexts_append, declaredTexts_flowElements flow,
      declaredTexts_branchElements flows, branchAll, List.map_append]

end

/-- The labels and details of the graph of a query are those of its parts, in the order of their
numbers. -/
theorem Graph.texts_build (q : Query) (expand : Bool) :
    ((build (some q) expand).nodes.map fun e => (e.label, e.detail)) =
      (Text.ofString "Start", none) ::
          (q.drawn expand).map (fun part => (part.label, part.detail)) ++
        [(Text.ofString "End", none)] := by
  have htexts : ((build (some q) expand).nodes.map fun e => (e.label, e.detail)) =
      declaredTexts [] (build (some q) expand).elements := by
    rw [nodes, walk_eq_preorder, declaredTexts, List.map_map]
    rfl
  rw [htexts, (build_elements q expand).1, startNode, endNode, List.cons_append,
    declaredTexts_node, declaredTexts_append, declaredTexts_flowElements, declaredTexts_node,
    Figure.map_texts_eq (Query.drawn_flowAll expand q)]
  rfl

/-! ### The ids of arguments and entries -/

/-- Ids with consecutive numbers from `n` on, in groups of the given sizes. -/
def idGroups (n : Nat) : List Nat → List (List Id)
  | [] => []
  | k :: ks => nodeIds n k :: idGroups (n + k) ks

theorem flatten_idGroups (n : Nat) (ks : List Nat) :
    (idGroups n ks).flatten = nodeIds n ks.sum := by
  induction ks generalizing n with
  | nil => rfl
  | cons k ks ih => rw [idGroups, List.flatten_cons, ih, List.sum_cons, nodeIds_add]

namespace Query

/-- The ids drawn for each argument of a call or each entry of an object, if the first of them has
number `n`. The key of an entry belongs to it. -/
def partIds (expand : Bool) (n : Nat) : Query → List (List Id)
  | call _ args => idGroups n (args.map fun arg => (arg.unwrapped.drawn expand).length)
  | object entries =>
    idGroups n (entries.map fun e => 1 + (e.value.unwrapped.drawn expand).length)
  | _ => []

theorem map_flowSize_argFigures (expand : Bool) (args : List Query) :
    (argFigures expand args).map flowSize =
      args.map fun arg => (arg.unwrapped.drawn expand).length := by
  induction args with
  | nil => rfl
  | cons arg args ih => rw [argFigures_cons, List.map_cons, List.map_cons, ih, length_drawn]

theorem map_flowSize_entryFigures (expand : Bool) (entries : List (Entry Query)) :
    (entryFigures expand entries).map flowSize =
      entries.map fun e => 1 + (e.value.unwrapped.drawn expand).length := by
  induction entries with
  | nil => rfl
  | cons e entries ih =>
    rw [entryFigures_cons, List.map_cons, List.map_cons, ih, length_drawn]
    rfl

end Query
end JqFlow
