import JqFlow.Proofs.Drawing.Labelled
import Mathlib.Logic.Relation

/-!
# How pipes are grouped

Pipes draw nothing, so it cannot be seen in a graph how they are grouped: `(a | b) | c` and
`a | (b | c)` are drawn alike, wherever they stand among what is drawn.

## Main definitions

- `Query.stages`: the operands of pipes, by recursion on the query
- `Query.Regroups`: one pipe of pipes is grouped the other way, somewhere in what is drawn
- `Query.Regrouped`: any number of them are, this way or back
- `Query.DrawnAlike`: two queries that cannot be told apart in a graph

## Main statements

- `Query.pipeOperandsFrom_eq`: the operands found with a stack are those of the queries on it
- `Query.Regroups.drawnAlike`: grouping one pipe the other way does not show
- `Graph.build?_regrouped`: neither does grouping any number of them

## Design notes

Arguments and values are drawn without the parentheses around them, so a pipe in such parentheses
stands among what is drawn even where parenthesized queries are not drawn as containers.
-/

namespace JqFlow

namespace Query

/-! ### The operands of pipes -/

mutual

/-- The operands of a query: those of the left and then of the right side of a pipe, and a query of
any other kind alone. -/
def stages : Query → List Query
  | operation .pipe l r => sideStages l ++ sideStages r
  | q => [q]

/-- The operands of one side of a pipe, which may be absent. -/
def sideStages : Option Query → List Query
  | none => []
  | some q => stages q

end

theorem sideStages_eq_flatMap (q : Option Query) : sideStages q = q.toList.flatMap stages := by
  cases q <;> simp [sideStages]

theorem stages_pipe (l r : Option Query) :
    (operation .pipe l r).stages = sideStages l ++ sideStages r := by
  rw [stages]

theorem stages_of_ne_pipe {q : Query} (h : ∀ l r, q ≠ operation .pipe l r) :
    q.stages = [q] := by
  rw [stages]
  exact h

/-- What is found with a stack follows what was found before. -/
theorem pipeOperandsFrom_eq (stack operands : List Query) :
    pipeOperandsFrom stack operands = operands ++ stack.flatMap stages := by
  fun_induction pipeOperandsFrom stack operands with
  | case1 operands => simp
  | case2 operands l r stack ih =>
    rw [ih, List.flatMap_append, List.flatMap_append, List.flatMap_cons, stages_pipe,
      sideStages_eq_flatMap, sideStages_eq_flatMap, List.append_assoc]
  | case3 operands q stack hq ih =>
    rw [ih, List.flatMap_cons, stages_of_ne_pipe hq, List.append_assoc]

theorem pipeOperands_eq_stages (q : Query) : q.pipeOperands = q.stages := by
  rw [pipeOperands, pipeOperandsFrom_eq]
  simp

mutual

/-- No pipe is left among the operands of a query. -/
theorem ne_pipe_of_mem_stages {p q : Query} (h : p ∈ q.stages) (l r : Option Query) :
    p ≠ operation .pipe l r := by
  cases q with
  | operation op l' r' =>
    by_cases hop : op = .pipe
    · subst hop
      rw [stages_pipe, List.mem_append] at h
      exact h.elim (ne_pipe_of_mem_sideStages · l r) (ne_pipe_of_mem_sideStages · l r)
    · rw [stages_of_ne_pipe (by simp [hop]), List.mem_singleton] at h
      simp [h, hop]
  | _ =>
    rw [stages_of_ne_pipe (by simp), List.mem_singleton] at h
    simp [h]

theorem ne_pipe_of_mem_sideStages {p : Query} {q : Option Query} (h : p ∈ sideStages q)
    (l r : Option Query) : p ≠ operation .pipe l r := by
  cases q with
  | none => exact absurd h List.not_mem_nil
  | some q => exact ne_pipe_of_mem_stages h l r

end

end Query

namespace Builder

mutual

/-- The operands of a query are drawn one after another. -/
theorem visit_eq_foldl_stages (q : Query) (b : Builder) :
    visit q b = q.stages.foldl (fun b p => visit p b) b := by
  cases q with
  | operation op l r =>
    by_cases hop : op = .pipe
    · subst hop
      rw [visit, Query.stages_pipe, List.foldl_append, visitOption_eq_foldl_stages l,
        visitOption_eq_foldl_stages r]
    · rw [Query.stages_of_ne_pipe (by simp [hop])]
      rfl
  | _ =>
    rw [Query.stages_of_ne_pipe (by simp)]
    rfl

theorem visitOption_eq_foldl_stages (q : Option Query) (b : Builder) :
    visitOption q b = (Query.sideStages q).foldl (fun b p => visit p b) b := by
  cases q with
  | none => rfl
  | some q => exact visit_eq_foldl_stages q b

end

end Builder

namespace Query

/-! ### Other groupings -/

/-- Somewhere in what is drawn, one pipe of pipes is grouped the other way: `(a | b) | c` has become
`a | (b | c)`. The bodies of parenthesized queries are drawn if `expand` says so. -/
inductive Regroups (expand : Bool) : Query → Query → Prop
  | assoc (a b c : Option Query) :
    Regroups expand (operation .pipe (some (operation .pipe a b)) c)
      (operation .pipe a (some (operation .pipe b c)))
  | left {p q : Query} (op : Operator) (r : Option Query) (h : Regroups expand p q) :
    Regroups expand (operation op (some p) r) (operation op (some q) r)
  | right {p q : Query} (op : Operator) (l : Option Query) (h : Regroups expand p q) :
    Regroups expand (operation op l (some p)) (operation op l (some q))
  | operand {p q : Query} (op : Text) (h : Regroups expand p q) :
    Regroups expand (unary op p) (unary op q)
  | argument {p q : Query} (name : Text) (before after : List Query) (h : Regroups expand p q) :
    Regroups expand (call name (before ++ p :: after)) (call name (before ++ q :: after))
  | groupedArgument {p q : Query} (name : Text) (before after : List Query)
    (h : Regroups expand p q) :
    Regroups expand (call name (before ++ group p :: after))
      (call name (before ++ group q :: after))
  | body {p q : Query} (h : Regroups expand p q) :
    Regroups expand (array (some p)) (array (some q))
  | value {p q : Query} (before after : List (Entry Query)) (key : Text)
    (keyExpr : Option Query) (h : Regroups expand p q) :
    Regroups expand (object (before ++ ⟨key, p, keyExpr⟩ :: after))
      (object (before ++ ⟨key, q, keyExpr⟩ :: after))
  | groupedValue {p q : Query} (before after : List (Entry Query)) (key : Text)
    (keyExpr : Option Query) (h : Regroups expand p q) :
    Regroups expand (object (before ++ ⟨key, group p, keyExpr⟩ :: after))
      (object (before ++ ⟨key, group q, keyExpr⟩ :: after))
  | source {p q : Query} (name : Text) (body : Query) (h : Regroups expand p q) :
    Regroups expand (bind p name body) (bind q name body)
  | bound {p q : Query} (source : Query) (name : Text) (h : Regroups expand p q) :
    Regroups expand (bind source name p) (bind source name q)
  | group {p q : Query} (hexpand : expand = true) (h : Regroups expand p q) :
    Regroups expand (group p) (group q)

/-- Any number of pipes in what is drawn are grouped otherwise. -/
def Regrouped (expand : Bool) : Query → Query → Prop :=
  Relation.EqvGen (Regroups expand)

/-- Two queries with the same flow, and with the same part that keeps them from being drawn, if
there is one. -/
structure DrawnAlike (expand : Bool) (p q : Query) : Prop where
  figures : p.figures expand = q.figures expand
  undrawable : p.undrawable? expand = q.undrawable? expand

theorem argFigures_eq_map (expand : Bool) (args : List Query) :
    argFigures expand args = args.map fun q => q.unwrapped.figures expand := by
  induction args with
  | nil => rfl
  | cons q args ih => rw [argFigures_cons, ih, List.map_cons]

theorem entryFigures_eq_map (expand : Bool) (entries : List (Entry Query)) :
    entryFigures expand entries = entries.map fun e =>
      [.box (objectKeyTitle e.key) none none [e.value.unwrapped.figures expand]] := by
  induction entries with
  | nil => rfl
  | cons e entries ih => rw [entryFigures_cons, ih, List.map_cons]

theorem orElse_assoc {α : Type} (a b c : Option α) :
    ((a <|> b) <|> c) = (a <|> (b <|> c)) := by
  cases a <;> rfl

theorem undrawableArgs?_append (expand : Bool) (args args' : List Query) :
    undrawableArgs? expand (args ++ args') =
      (undrawableArgs? expand args <|> undrawableArgs? expand args') := by
  induction args with
  | nil => rfl
  | cons q args ih =>
    rw [List.cons_append, undrawableArgs?_cons, ih, undrawableArgs?_cons, orElse_assoc]

theorem undrawableEntries?_append (expand : Bool) (entries entries' : List (Entry Query)) :
    undrawableEntries? expand (entries ++ entries') =
      (undrawableEntries? expand entries <|> undrawableEntries? expand entries') := by
  induction entries with
  | nil => rfl
  | cons e entries ih =>
    rw [List.cons_append, undrawableEntries?_cons, ih, undrawableEntries?_cons, orElse_assoc]

namespace DrawnAlike

variable {expand : Bool} {p q : Query}

theorem assoc (a b c : Option Query) :
    DrawnAlike expand (.operation .pipe (some (.operation .pipe a b)) c)
      (.operation .pipe a (some (.operation .pipe b c))) := by
  refine ⟨?_, ?_⟩
  · simp only [Query.figures, sideFigures, List.append_assoc]
  · simp only [undrawable?, undrawableOption?, orElse_assoc]

theorem left (h : DrawnAlike expand p q) (op : Operator) (r : Option Query) :
    DrawnAlike expand (.operation op (some p) r) (.operation op (some q) r) := by
  refine ⟨?_, ?_⟩
  · by_cases hop : op = .pipe
    · subst hop
      simp only [Query.figures, sideFigures, h.figures]
    · rw [figures_operation expand hop, figures_operation expand hop, branchOf, branchOf,
        h.figures]
      rfl
  · simp only [undrawable?, undrawableOption?, h.undrawable]

theorem right (h : DrawnAlike expand p q) (op : Operator) (l : Option Query) :
    DrawnAlike expand (.operation op l (some p)) (.operation op l (some q)) := by
  refine ⟨?_, ?_⟩
  · by_cases hop : op = .pipe
    · subst hop
      simp only [Query.figures, sideFigures, h.figures]
    · rw [figures_operation expand hop, figures_operation expand hop, branchOf, branchOf,
        h.figures]
      rfl
  · simp only [undrawable?, undrawableOption?, h.undrawable]

/-- An argument counts without the parentheses around it. -/
theorem argument (h : DrawnAlike expand p.unwrapped q.unwrapped) (name : Text)
    (before after : List Query) :
    DrawnAlike expand (.call name (before ++ p :: after)) (.call name (before ++ q :: after)) := by
  refine ⟨?_, ?_⟩
  · simp only [Query.figures, argFigures_eq_map, List.map_append, List.map_cons, h.figures]
    rfl
  · simp only [undrawable?, undrawableArgs?_append, undrawableArgs?_cons, h.undrawable]

/-- So does the value of an entry. -/
theorem value (h : DrawnAlike expand p.unwrapped q.unwrapped) (before after : List (Entry Query))
    (key : Text) (keyExpr : Option Query) :
    DrawnAlike expand (.object (before ++ ⟨key, p, keyExpr⟩ :: after))
      (.object (before ++ ⟨key, q, keyExpr⟩ :: after)) := by
  refine ⟨?_, ?_⟩
  · simp only [Query.figures, entryFigures_eq_map, List.map_append, List.map_cons, h.figures]
    rfl
  · simp only [undrawable?, undrawableEntries?_append, undrawableEntries?_cons, h.undrawable]

end DrawnAlike

/-- Grouping one pipe the other way does not show. -/
theorem Regroups.drawnAlike {expand : Bool} {p q : Query} (h : Regroups expand p q) :
    DrawnAlike expand p q ∧ DrawnAlike expand p.unwrapped q.unwrapped := by
  -- The parentheses around an argument or a value are taken away, and what remains has to be known.
  induction h with
  | assoc a b c => exact ⟨.assoc a b c, .assoc a b c⟩
  | left op r _ ih => exact ⟨ih.1.left op r, ih.1.left op r⟩
  | right op l _ ih => exact ⟨ih.1.right op l, ih.1.right op l⟩
  | @operand p q op _ ih =>
    have hunary : DrawnAlike expand (unary op p) (unary op q) := by
      refine ⟨?_, ih.1.undrawable⟩
      rw [figures, figures, ih.1.figures]
      rfl
    exact ⟨hunary, hunary⟩
  | argument name before after _ ih =>
    exact ⟨ih.2.argument name before after, ih.2.argument name before after⟩
  | @groupedArgument p q name before after _ ih =>
    have hcall := DrawnAlike.argument (p := .group p) (q := .group q) ih.1 name before after
    exact ⟨hcall, hcall⟩
  | @body p q _ ih =>
    have harray : DrawnAlike expand (array (some p)) (array (some q)) := by
      refine ⟨?_, ih.1.undrawable⟩
      rw [figures, figures, branchOf, branchOf, ih.1.figures]
      rfl
    exact ⟨harray, harray⟩
  | value before after key keyExpr _ ih =>
    exact ⟨ih.2.value before after key keyExpr, ih.2.value before after key keyExpr⟩
  | @groupedValue p q before after key keyExpr _ ih =>
    have hobject := DrawnAlike.value (p := .group p) (q := .group q) ih.1 before after key keyExpr
    exact ⟨hobject, hobject⟩
  | @source p q name body _ ih =>
    have hbind : DrawnAlike expand (bind p name body) (bind q name body) := by
      refine ⟨?_, ?_⟩
      · rw [figures, figures, ih.1.figures]
        rfl
      · rw [undrawable?, undrawable?, ih.1.undrawable]
    exact ⟨hbind, hbind⟩
  | @bound p q source name _ ih =>
    have hbind : DrawnAlike expand (bind source name p) (bind source name q) := by
      refine ⟨?_, ?_⟩
      · rw [figures, figures, ih.1.figures]
        rfl
      · rw [undrawable?, undrawable?, ih.1.undrawable]
    exact ⟨hbind, hbind⟩
  | @group p q hexpand _ ih =>
    refine ⟨⟨?_, ?_⟩, ih.1⟩
    · rw [figures, figures, if_pos hexpand, if_pos hexpand, ih.1.figures]
      rfl
    · rw [undrawable?, undrawable?, ih.1.undrawable]

/-- Neither does grouping any number of them. -/
theorem Regrouped.drawnAlike {expand : Bool} {p q : Query} (h : Regrouped expand p q) :
    DrawnAlike expand p q := by
  induction h with
  | rel p q h => exact h.drawnAlike.1
  | refl p => exact ⟨rfl, rfl⟩
  | symm p q _ ih => exact ⟨ih.figures.symm, ih.undrawable.symm⟩
  | trans p q r _ _ ih ih' =>
    exact ⟨ih.figures.trans ih'.figures, ih.undrawable.trans ih'.undrawable⟩

theorem DrawnAlike.build?_eq {expand : Bool} {p q : Query} (h : DrawnAlike expand p q) :
    Graph.build? (some p) expand = Graph.build? (some q) expand := by
  rw [Graph.build?, Graph.build?, undrawableOption?, undrawableOption?, h.undrawable,
    Graph.build_some, Graph.build_some, h.figures]

end Query

/-- The operands of a query are found from left to right, none of them is a pipe, and drawing the
query draws them one after another, however pipes are nested in it. Queries that differ only by the
grouping of pipes in what is drawn have the same graph, or none for want of the same part. -/
theorem Graph.build?_regrouped (expand : Bool) (p : Query) :
    (p.pipeOperands = p.stages ∧
      (∀ r ∈ p.pipeOperands, ∀ a b, r ≠ .operation .pipe a b) ∧
      ∀ b, Builder.visit p b = p.pipeOperands.foldl (fun b r => Builder.visit r b) b) ∧
    ∀ q, p.Regrouped expand q → build? (some p) expand = build? (some q) expand := by
  rw [Query.pipeOperands_eq_stages]
  exact ⟨⟨rfl, fun r hr a b => Query.ne_pipe_of_mem_stages hr a b,
    Builder.visit_eq_foldl_stages p⟩, fun q h => h.drawnAlike.build?_eq⟩

/-- `f((. | null) | .., [.])` has the graph of `f(. | (null | ..), [.])`. -/
theorem Graph.build?_regrouped_argument :
    (Query.Regrouped false
      (.call "f" [.pipe (.pipe .identity .null) .recurse, .array (some .identity)])
      (.call "f" [.pipe .identity (.pipe .null .recurse), .array (some .identity)])) ∧
    build? (some (.call "f" [.pipe (.pipe .identity .null) .recurse, .array (some .identity)]))
        false =
      build? (some (.call "f" [.pipe .identity (.pipe .null .recurse), .array (some .identity)]))
        false := by
  have h : Query.Regrouped false
      (.call "f" [.pipe (.pipe .identity .null) .recurse, .array (some .identity)])
      (.call "f" [.pipe .identity (.pipe .null .recurse), .array (some .identity)]) :=
    .rel _ _ (.argument "f" [] [.array (some .identity)]
      (.assoc (some .identity) (some .null) (some .recurse)))
  exact ⟨h, (build?_regrouped false _).2 _ h⟩

end JqFlow
