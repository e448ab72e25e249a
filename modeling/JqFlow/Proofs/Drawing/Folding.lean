import JqFlow.Proofs.Drawing.Parts

/-!
# Graphs with their groups folded

A query in parentheses can be drawn as a container with its flow inside. Folding a graph puts a
rectangle in the place of every outermost one of these containers, leaves out what was inside, and
numbers the rest anew.

## Main definitions

- `Element.foldedList`: a forest with its outermost groups folded
- `Element.hiddenList`: the ids that are left out
- `Graph.folded`: a graph with its outermost groups folded
- `foldedFlow`: the same for flows

## Main statements

- `Query.foldedFlow_figures`: the folded flow of a query is its flow without expansion
-/

namespace JqFlow

open Builder (nodeId)

/-- The label of what is drawn for a query in parentheses. -/
def groupLabel : Text := "Query"

/-! ### Folding elements -/

namespace Element

mutual

/-- An element with its outermost groups drawn as rectangles. -/
def folded : Element → Element
  | node id label shape detail => node id label shape detail
  | container id label children detail =>
    if label = groupLabel then node id label .rectangle none
    else container id label (foldedList children) detail

/-- A forest with its outermost groups drawn as rectangles. -/
def foldedList : List Element → List Element
  | [] => []
  | e :: es => folded e :: foldedList es

end

mutual

/-- The ids of what is inside the outermost groups of an element. -/
def hidden : Element → List Id
  | node .. => []
  | container _ label children _ =>
    if label = groupLabel then declaredIds [] children else hiddenList children

/-- The ids of what is inside the outermost groups of a forest. -/
def hiddenList : List Element → List Id
  | [] => []
  | e :: es => hidden e ++ hiddenList es

end

mutual

/-- An element with other ids. -/
def renamed (rename : Id → Id) : Element → Element
  | node id label shape detail => node (rename id) label shape detail
  | container id label children detail =>
    container (rename id) label (renamedList rename children) detail

/-- A forest with other ids. -/
def renamedList (rename : Id → Id) : List Element → List Element
  | [] => []
  | e :: es => renamed rename e :: renamedList rename es

end

/-- The ids that are left when the outermost groups of a forest are folded. -/
def keptIds (es : List Element) : List Id :=
  declaredIds [] (foldedList es)

theorem foldedList_append (es es' : List Element) :
    foldedList (es ++ es') = foldedList es ++ foldedList es' := by
  induction es with
  | nil => rfl
  | cons e es ih => rw [List.cons_append, foldedList, foldedList, ih, List.cons_append]

theorem hiddenList_append (es es' : List Element) :
    hiddenList (es ++ es') = hiddenList es ++ hiddenList es' := by
  induction es with
  | nil => rfl
  | cons e es ih => rw [List.cons_append, hiddenList, hiddenList, ih, List.append_assoc]

theorem renamedList_append (rename : Id → Id) (es es' : List Element) :
    renamedList rename (es ++ es') = renamedList rename es ++ renamedList rename es' := by
  induction es with
  | nil => rfl
  | cons e es ih => rw [List.cons_append, renamedList, renamedList, ih, List.cons_append]

mutual

theorem map_id_preorder (e : Element) (outer : List Id) :
    (e.preorder outer).map (fun p => p.2.id) = e.id :: declaredIds [] e.children := by
  cases e with
  | node => rfl
  | container id label children detail =>
    rw [preorder, List.map_cons]
    exact congrArg (id :: ·) (declaredIds_outer children (outer ++ [id]))

/-- The ids of a forest do not depend on what is around it. -/
theorem declaredIds_outer (es : List Element) (outer : List Id) :
    declaredIds outer es = declaredIds [] es := by
  cases es with
  | nil => rfl
  | cons e es =>
    have hrest := declaredIds_outer es outer
    rw [declaredIds, declaredIds] at hrest
    rw [declaredIds, declaredIds, preorderList, preorderList, List.map_append, List.map_append,
      map_id_preorder e, map_id_preorder e, hrest]

end

theorem keptIds_append (es es' : List Element) :
    keptIds (es ++ es') = keptIds es ++ keptIds es' := by
  rw [keptIds, foldedList_append, declaredIds_append]
  rfl

theorem keptIds_node (id label : Text) (shape : Shape) (detail : Option Text) (es : List Element) :
    keptIds (.node id label shape detail :: es) = id :: keptIds es := by
  rfl

theorem keptIds_group (id : Id) (children : List Element) (detail : Option Text) :
    keptIds [.container id groupLabel children detail] = [id] := by
  rw [keptIds, foldedList, folded, if_pos rfl]
  rfl

theorem keptIds_container {label : Text} (h : label ≠ groupLabel) (id : Id)
    (children : List Element) (detail : Option Text) :
    keptIds [.container id label children detail] = id :: keptIds children := by
  rw [keptIds, foldedList, folded, if_neg h, foldedList, declaredIds_container, declaredIds_outer]
  rfl

mutual

theorem perm_ids (e : Element) : (keptIds [e] ++ e.hidden).Perm (declaredIds [] [e]) := by
  cases e with
  | node => exact .refl _
  | container id label children detail =>
    by_cases h : label = groupLabel
    · subst h
      rw [keptIds_group, hidden, if_pos rfl, declaredIds_container,
        declaredIds_outer children ([] ++ [id]), List.singleton_append]
    · rw [keptIds_container h, hidden, if_neg h, declaredIds_container, declaredIds_outer]
      exact (perm_idsList children).cons id

/-- Every id of a forest is kept or hidden, and not twice. -/
theorem perm_idsList (es : List Element) :
    (keptIds es ++ hiddenList es).Perm (declaredIds [] es) := by
  cases es with
  | nil => exact .refl _
  | cons e es =>
    have happend : keptIds (e :: es) = keptIds [e] ++ keptIds es := keptIds_append [e] es
    have hdeclared : declaredIds [] (e :: es) = declaredIds [] [e] ++ declaredIds [] es :=
      declaredIds_append [] [e] es
    rw [happend, hiddenList, hdeclared]
    -- Kept ids come before hidden ones in the sum, but element by element in the forest.
    have hcomm : (keptIds [e] ++ keptIds es ++ (e.hidden ++ hiddenList es)).Perm
        (keptIds [e] ++ e.hidden ++ (keptIds es ++ hiddenList es)) := by
      rw [List.append_assoc, List.append_assoc]
      refine List.Perm.append_left _ ?_
      rw [← List.append_assoc, ← List.append_assoc]
      exact List.perm_append_comm.append_right _
    exact hcomm.trans ((perm_ids e).append (perm_idsList es))

end

end Element

/-! ### Folding graphs -/

/-- Does an edge touch none of the given ids? -/
def Edge.avoids (ids : List Id) (w : Edge) : Bool :=
  w.source ∉ ids && w.target ∉ ids

/-- An edge between other ids. -/
def Edge.renamed (rename : Id → Id) (w : Edge) : Edge :=
  ⟨rename w.source, rename w.target, w.label⟩

namespace Graph

/-- The id for the place of an id in a list that begins with the start node. -/
def renumber (ids : List Id) (endId id : Id) : Id :=
  if id = startId then startId
  else if id = endId then endIdOf (ids.idxOf id - 1)
  else nodeId (ids.idxOf id - 1)

/-- A graph with its outermost groups folded: each is drawn as a rectangle, what was inside is left
out with all edges that touch it, and the ids that are left are numbered in their order. -/
def folded (g : Graph) : Graph :=
  let rename := renumber (Element.keptIds g.elements) g.endId
  { elements := Element.renamedList rename (Element.foldedList g.elements)
    edges := (g.edges.filter (Edge.avoids (Element.hiddenList g.elements))).map
      (Edge.renamed rename)
    endId := rename g.endId }

end Graph

/-! ### Folding flows -/

mutual

/-- A figure with its outermost groups as marks. -/
def Figure.folded : Figure → Figure
  | .mark label type => .mark label type
  | .fork label type operands => .fork label type (foldedBranches operands)
  | .box label detail type branches =>
    if label = groupLabel then .mark label type else .box label detail type (foldedBranches branches)

/-- A flow with its outermost groups as marks. -/
def foldedFlow : List Figure → List Figure
  | [] => []
  | f :: fs => f.folded :: foldedFlow fs

/-- Several flows with their outermost groups as marks. -/
def foldedBranches : List (List Figure) → List (List Figure)
  | [] => []
  | flow :: flows => foldedFlow flow :: foldedBranches flows

end

theorem foldedFlow_append (fs gs : List Figure) :
    foldedFlow (fs ++ gs) = foldedFlow fs ++ foldedFlow gs := by
  induction fs with
  | nil => rfl
  | cons f fs ih => rw [List.cons_append, foldedFlow, foldedFlow, ih, List.cons_append]

theorem foldedBranches_append (flows flows' : List (List Figure)) :
    foldedBranches (flows ++ flows') = foldedBranches flows ++ foldedBranches flows' := by
  induction flows with
  | nil => rfl
  | cons flow flows ih => rw [List.cons_append, foldedBranches, foldedBranches, ih, List.cons_append]

theorem functionTitle_ne_groupLabel (name : Text) : functionTitle name ≠ groupLabel := by
  intro h
  have := congrArg List.getLast? h
  simp [functionTitle, groupLabel, Text.ofString] at this

theorem objectKeyTitle_ne_groupLabel (key : Text) : objectKeyTitle key ≠ groupLabel := by
  intro h
  have := congrArg List.getLast? h
  simp [objectKeyTitle, groupLabel, Text.ofString] at this

namespace Query

mutual

/-- The folded flow of a query is its flow without expansion. -/
theorem foldedFlow_figures (q : Query) : foldedFlow (q.figures true) = q.figures false := by
  cases q with
  | operation op l r =>
    by_cases hop : op = .pipe
    · subst hop
      rw [figures, figures, foldedFlow_append, foldedFlow_sideFigures l, foldedFlow_sideFigures r]
    · rw [figures_operation true hop, figures_operation false hop, foldedFlow, Figure.folded,
        foldedBranches_append, foldedBranches_branchOf l, foldedBranches_branchOf r]
      rfl
  | unary op operand =>
    rw [figures, figures, foldedFlow, Figure.folded, foldedBranches, foldedFlow_figures operand]
    rfl
  | call name args =>
    rw [figures, figures, foldedFlow, Figure.folded, if_neg (functionTitle_ne_groupLabel name),
      foldedBranches_argFigures args]
    rfl
  | array body =>
    have hlabel : (array body).title ≠ groupLabel :=
      show Text.ofString "Array" ≠ groupLabel by decide
    rw [figures, figures, foldedFlow, Figure.folded, if_neg hlabel,
      foldedBranches_branchOf body]
    rfl
  | object entries =>
    have hlabel : (object entries).title ≠ groupLabel :=
      show Text.ofString "Object" ≠ groupLabel by decide
    rw [figures, figures, foldedFlow, Figure.folded, if_neg hlabel,
      foldedBranches_entryFigures entries]
    rfl
  | bind source name body =>
    rw [figures, figures, foldedFlow_append, foldedFlow, Figure.folded, foldedFlow_figures source,
      foldedFlow_figures body]
  -- The one case in which the two flows differ before folding.
  | group body => rfl
  | _ => rfl

theorem foldedFlow_sideFigures (q : Option Query) :
    foldedFlow (sideFigures true q) = sideFigures false q := by
  cases q with
  | none => rfl
  | some q => exact foldedFlow_figures q

theorem foldedBranches_branchOf (q : Option Query) :
    foldedBranches (branchOf true q) = branchOf false q := by
  cases q with
  | none => rfl
  | some q => rw [branchOf, branchOf, foldedBranches, foldedFlow_figures q, foldedBranches]

theorem foldedBranches_argFigures (args : List Query) :
    foldedBranches (argFigures true args) = argFigures false args := by
  cases args with
  | nil => rfl
  | cons q args =>
    have hq : foldedFlow (q.unwrapped.figures true) = q.unwrapped.figures false := by
      cases q with
      | group q => exact foldedFlow_figures q
      | _ => exact foldedFlow_figures _
    rw [argFigures_cons, argFigures_cons, foldedBranches, hq, foldedBranches_argFigures args]

theorem foldedBranches_entryFigures (entries : List (Entry Query)) :
    foldedBranches (entryFigures true entries) = entryFigures false entries := by
  match entries with
  | [] => rfl
  | ⟨key, value, keyExpr⟩ :: entries =>
    have hvalue : foldedFlow (value.unwrapped.figures true) = value.unwrapped.figures false := by
      cases value with
      | group q => exact foldedFlow_figures q
      | _ => exact foldedFlow_figures _
    rw [entryFigures_cons, entryFigures_cons, foldedBranches, foldedFlow, Figure.folded,
      if_neg (objectKeyTitle_ne_groupLabel key), foldedBranches, hvalue,
      foldedBranches_entryFigures entries]
    rfl

end

end Query
end JqFlow
