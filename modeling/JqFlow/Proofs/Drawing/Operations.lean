import JqFlow.Proofs.Drawing.Simple
import JqFlow.Proofs.Drawing.Visited
import Mathlib.Data.List.Infix

/-!
# Drawing in any order

A drawing is made by seven operations, and drawing a whole query is one of them. In whatever order
they are used, ids are never given twice, no edge is drawn twice, and every element is filed once.

## Main definitions

- `Builder.Op`: an operation on a drawing
- `Ledger`: a drawing with the ids that have been given
- `Ledger.perform`, `Ledger.run`: one operation, and several in a row
- `Builder.filed`: what is filed in the scopes of a drawing
- `Ledger.Sound`: what holds of every drawing that is reached
- `Builder.Extends`: a drawing that only appends to an earlier one

## Main statements

- `Ledger.perform_step`: what one operation can do
- `Ledger.run_sound`: what holds after any operations in a row

## Design notes

An operation either raises an error, which ends the run, or gives some ids and changes the scopes in
one of four ways: `ScopeStep` lists them. All that is said of elements follows from that list, and
drawing a query is one of its cases, because a flow is put at the end of the innermost scope.
-/

namespace JqFlow

/-! ### Operations -/

/-- An operation on a drawing. -/
inductive Builder.Op
  | nextId (start : Text)
  | connect (source target : Id)
  | startBranch (seed : Id)
  | addNode (label : Text) (detail : Option Text) (source : Option Query)
  | openContainer (label : Text) (detail : Option Text) (source : Option Query)
  | closeContainer
  | visitBranch (seed : Id) (q : Query)

/-- A drawing under way, with the ids that have been given, and those of them that were given to
nodes and containers, in the order in which they were given. -/
structure Ledger where
  builder : Builder
  given : List Id
  drawn : List Id

namespace Ledger

/-- A drawing with nothing in it, for which no id has been given. -/
def fresh (expandGroups : Bool) : Ledger :=
  ⟨Builder.empty expandGroups, [], []⟩

/-- The ledger after ids have been given to elements. -/
def draw (s : Ledger) (ids : List Id) (b : Builder) : Ledger :=
  ⟨b, s.given ++ ids, s.drawn ++ ids⟩

/-- One operation. There is no result where it raises an error: closing the top level, and drawing a
query with a part for want of which it has no graph. -/
def perform (s : Ledger) : Builder.Op → Option Ledger
  | .nextId start =>
    let (id, b) := s.builder.nextId start
    some ⟨b, s.given ++ [id], s.drawn⟩
  | .connect source target => some { s with builder := s.builder.connect source target }
  | .startBranch seed => some { s with builder := s.builder.startBranch seed }
  | .addNode label detail source =>
    let (id, b) := s.builder.addNode label detail source
    some (s.draw [id] b)
  | .openContainer label detail source =>
    let (id, b) := s.builder.openContainer label detail source
    some (s.draw [id] b)
  | .closeContainer =>
    match s.builder.closeContainer with
    | (none, b) => some { s with builder := b }
    | (some _, _) => none
  | .visitBranch seed q =>
    match q.undrawable? s.builder.expandGroups with
    | none =>
      some (s.draw (Builder.visitIds q (s.builder.startBranch seed)) (s.builder.visitBranch seed q))
    | some _ => none

/-- Operations one after another. -/
def run (s : Ledger) : List Builder.Op → Option Ledger
  | [] => some s
  | op :: ops => (s.perform op).bind fun s => s.run ops

theorem run_append (s : Ledger) (ops ops' : List Builder.Op) :
    s.run (ops ++ ops') = (s.run ops).bind fun s => s.run ops' := by
  induction ops generalizing s with
  | nil => rfl
  | cons op ops ih =>
    rw [List.cons_append, run, run, Option.bind_assoc]
    exact congrArg _ (funext ih)

end Ledger

/-! ### What is filed -/

/-- The id of the container that a scope collects elements for. -/
def Scope.id? (s : Scope) : Option Id :=
  s.container.map Opened.id

namespace Builder

/-- The ids of the open containers, innermost first. -/
def openIds (scopes : List Scope) : List Id :=
  scopes.filterMap Scope.id?

/-- The ids of the open containers, from the outside in. -/
def openPath : List Scope → List Id
  | [] => []
  | s :: outer => openPath outer ++ s.id?.toList

/-- Every element that is filed in scopes, with the ids of the containers around it. -/
def filed : List Scope → List (List Id × Element)
  | [] => []
  | s :: outer => filed outer ++ Element.preorderList (openPath (s :: outer)) s.elements

/-- The ids of what is filed in scopes. -/
def filedIds (scopes : List Scope) : List Id :=
  (filed scopes).map fun p => p.2.id

/-- What is filed directly inside the containers with the given ids. -/
def filedAt (scopes : List Scope) (path : List Id) : List Element :=
  ((filed scopes).filter fun p => p.1 = path).map Prod.snd

/-- The innermost scopes belong to containers, and the last one to none. -/
def Bottomed (scopes : List Scope) : Prop :=
  ∃ n, scopes.map (fun s => s.id?.isSome) = List.replicate n true ++ [false]

/-- What an operation does to the scopes, with the ids that elements get: nothing, or elements are
filed, or a container is opened, or one is closed. -/
inductive ScopeStep : List Scope → List Id → List Scope → Prop
  | same (scopes : List Scope) : ScopeStep scopes [] scopes
  | filed (container : Option Opened) (placed : List Element) (outer : List Scope)
    {es : List Element} {ids : List Id} (hids : ∀ path, declaredIds path es = ids) :
    ScopeStep (⟨container, placed⟩ :: outer) ids (⟨container, placed ++ es⟩ :: outer)
  | opened (c : Opened) (scopes : List Scope) : ScopeStep scopes [c.id] (⟨some c, []⟩ :: scopes)
  | closed (c : Opened) (inside : List Element) (container : Option Opened)
    (placed : List Element) (outer : List Scope) :
    ScopeStep (⟨some c, inside⟩ :: ⟨container, placed⟩ :: outer) []
      (⟨container, placed ++ [.container c.id c.label inside c.detail]⟩ :: outer)

end Builder

mutual

/-- What is inside a container has its path before it. -/
theorem Element.path_isPrefix_of_preorder (e : Element) (ancestors : List Id) :
    ∀ p ∈ e.preorder ancestors, ancestors <+: p.1 := by
  cases e with
  | node => simp [preorder]
  | container id label children detail =>
    rw [preorder, List.forall_mem_cons]
    refine ⟨List.prefix_rfl, fun p hp => ?_⟩
    exact (List.prefix_append _ _).trans (path_isPrefix_of_preorderList children _ p hp)

theorem Element.path_isPrefix_of_preorderList (es : List Element) (ancestors : List Id) :
    ∀ p ∈ preorderList ancestors es, ancestors <+: p.1 := by
  cases es with
  | nil => simp [preorderList]
  | cons e es =>
    rw [preorderList, List.forall_mem_append]
    exact ⟨path_isPrefix_of_preorder e ancestors, path_isPrefix_of_preorderList es ancestors⟩

end

namespace Builder

theorem openPath_cons (container : Option Opened) (es : List Element) (outer : List Scope) :
    openPath (⟨container, es⟩ :: outer) = openPath outer ++ (container.map Opened.id).toList := rfl

/-- Elements at the end of the innermost scope are filed after all that is filed already. -/
theorem filed_append (container : Option Opened) (placed es : List Element) (outer : List Scope) :
    filed (⟨container, placed ++ es⟩ :: outer) =
      filed (⟨container, placed⟩ :: outer) ++
        Element.preorderList (openPath (⟨container, placed⟩ :: outer)) es := by
  simp only [filed, openPath_cons, Element.preorderList_append, List.append_assoc]

/-- Closing a container puts it before what is inside it. -/
theorem filed_closed (c : Opened) (inside : List Element) (container : Option Opened)
    (placed : List Element) (outer : List Scope) :
    let path := openPath (⟨container, placed⟩ :: outer)
    let closed := Element.container c.id c.label inside c.detail
    filed (⟨container, placed ++ [closed]⟩ :: outer) =
      filed (⟨container, placed⟩ :: outer) ++
        (path, closed) :: Element.preorderList (path ++ [c.id]) inside := by
  simp only [filed_append, Element.preorderList, Element.preorder, List.append_nil]

theorem filed_open (c : Opened) (inside : List Element) (outer : List Scope) :
    filed (⟨some c, inside⟩ :: outer) =
      filed outer ++ Element.preorderList (openPath outer ++ [c.id]) inside := rfl

namespace ScopeStep

variable {scopes scopes' : List Scope} {ids : List Id}

/-- The ids that are filed or open after a step are those before it and the ones that it gives. -/
theorem count_held (h : ScopeStep scopes ids scopes') (id : Id) :
    (filedIds scopes').count id + (openIds scopes').count id =
      (filedIds scopes).count id + (openIds scopes).count id + ids.count id := by
  cases h with
  | same => simp
  | filed container placed outer hids =>
    have hplaced := hids (openPath (⟨container, placed⟩ :: outer))
    simp only [declaredIds] at hplaced
    simp only [filedIds, filed_append, List.map_append, hplaced, List.count_append, openIds,
      List.filterMap_cons, Scope.id?]
    omega
  | opened c =>
    simp only [filedIds, filed_open, Element.preorderList, List.append_nil, openIds,
      List.filterMap_cons, Scope.id?, Option.map_some, List.count_cons, List.count_nil]
    omega
  | closed c inside container placed outer =>
    simp only [filedIds, filed_closed, filed_open, List.map_append, List.map_cons, Element.id,
      List.count_append, List.count_cons, List.count_nil, openIds, List.filterMap_cons, Scope.id?,
      Option.map_some]
    omega

/-- What was filed somewhere is the beginning of what is filed there after a step. -/
theorem filedAt_isPrefix (h : ScopeStep scopes ids scopes') (path : List Id) :
    filedAt scopes path <+: filedAt scopes' path := by
  cases h with
  | same => exact List.prefix_rfl
  | filed container placed outer =>
    simp only [filedAt, filed_append, List.filter_append, List.map_append]
    exact List.prefix_append _ _
  | opened c =>
    simp only [filedAt, filed_open, Element.preorderList, List.append_nil]
    exact List.prefix_rfl
  | closed c inside container placed outer =>
    simp only [filedAt, filed_closed, filed_open, List.filter_append, List.map_append]
    refine (List.prefix_append_right_inj _).mpr ?_
    by_cases hpath : openPath (⟨container, placed⟩ :: outer) = path
    · -- What is inside the container lies deeper.
      have hinside : (Element.preorderList (openPath (⟨container, placed⟩ :: outer) ++ [c.id])
          inside).filter (fun p => p.1 = path) = [] := by
        refine List.filter_eq_nil_iff.mpr fun p hp => ?_
        have hlength := (Element.path_isPrefix_of_preorderList inside _ p hp).length_le
        rw [List.length_append, List.length_singleton, hpath] at hlength
        simp only [decide_eq_true_eq]
        rintro rfl
        omega
      rw [hinside]
      exact List.nil_prefix
    · rw [List.filter_cons_of_neg (by simpa using hpath)]

theorem bottomed (h : ScopeStep scopes ids scopes') (hbottom : Bottomed scopes) :
    Bottomed scopes' := by
  obtain ⟨n, hn⟩ := hbottom
  cases h with
  | same | filed => exact ⟨n, hn⟩
  | opened c => exact ⟨n + 1, by simpa [Scope.id?, List.replicate_succ] using hn⟩
  | closed c inside container placed outer =>
    cases n with
    | zero => simp [Scope.id?] at hn
    | succ n => exact ⟨n, by simpa [Scope.id?, List.replicate_succ] using hn⟩

end ScopeStep

end Builder

/-! ### Ids that end in their numbers -/

/-- Ids that end in the numbers from `n` on, each after an underscore. -/
def Numbered : Nat → List Id → Prop
  | _, [] => True
  | n, id :: ids => (∃ start, id = start ++ "_" ++ Text.ofNat n) ∧ Numbered (n + 1) ids

/-- The number that an id ends in can be told, whatever comes before the underscore. -/
theorem eq_of_numbered {start start' : Text} {m n : Nat}
    (h : start ++ "_" ++ Text.ofNat m = start' ++ "_" ++ Text.ofNat n) : m = n := by
  have hdigits (n : Nat) : ∀ c ∈ (Text.ofNat n).reverse, (c != .scalar '_') = true := by
    intro c hc
    obtain ⟨d, hd, rfl⟩ := List.mem_map.mp (List.mem_reverse.mp hc)
    have hdigit := Nat.isDigit_of_mem_toDigits (by decide) (by decide) hd
    refine bne_iff_ne.mpr fun hunderscore => ?_
    rw [CodePoint.scalar.inj hunderscore] at hdigit
    exact absurd hdigit (by decide)
  have hlast (start : Text) (n : Nat) :
      ((start ++ "_" ++ Text.ofNat n).reverse.takeWhile fun c => c != .scalar '_') =
        (Text.ofNat n).reverse := by
    rw [List.reverse_append, List.takeWhile_append_of_pos (hdigits n), List.reverse_append]
    exact List.append_nil _
  have hreverse := (hlast start m).symm.trans (h ▸ hlast start' n)
  exact Text.ofNat_injective (List.reverse_injective hreverse)

theorem numbered_append {n : Nat} {ids ids' : List Id} (h : Numbered n ids)
    (h' : Numbered (n + ids.length) ids') : Numbered n (ids ++ ids') := by
  induction ids generalizing n with
  | nil => exact h'
  | cons id ids ih =>
    refine ⟨h.1, ih h.2 ?_⟩
    rw [List.length_cons] at h'
    rwa [Nat.add_right_comm, Nat.add_assoc]

theorem numbered_nodeIds (n count : Nat) : Numbered n (nodeIds n count) := by
  induction count generalizing n with
  | zero => exact trivial
  | succ count ih =>
    rw [Nat.add_comm, nodeIds_one_add]
    exact ⟨⟨"node", rfl⟩, ih (n + 1)⟩

theorem Numbered.exists_number {n : Nat} {ids : List Id} (h : Numbered n ids) {id : Id}
    (hid : id ∈ ids) : ∃ start m, n ≤ m ∧ id = start ++ "_" ++ Text.ofNat m := by
  induction ids generalizing n with
  | nil => exact absurd hid List.not_mem_nil
  | cons id' ids ih =>
    rcases List.mem_cons.mp hid with rfl | hid
    · obtain ⟨start, hstart⟩ := h.1
      exact ⟨start, n, Nat.le_refl n, hstart⟩
    · obtain ⟨start, m, hm, hstart⟩ := ih h.2 hid
      exact ⟨start, m, by omega, hstart⟩

/-- Ids with different numbers are different. -/
theorem Numbered.nodup {n : Nat} {ids : List Id} (h : Numbered n ids) : ids.Nodup := by
  induction ids generalizing n with
  | nil => exact List.nodup_nil
  | cons id ids ih =>
    refine List.nodup_cons.mpr ⟨fun hid => ?_, ih h.2⟩
    obtain ⟨start, hstart⟩ := h.1
    obtain ⟨start', m, hm, hstart'⟩ := h.2.exists_number hid
    have := eq_of_numbered (hstart.symm.trans hstart')
    omega

theorem length_nodeIds (n count : Nat) : (nodeIds n count).length = count := by
  simp [nodeIds]

/-! ### Edges are only appended -/

namespace Builder

theorem connect_edges (source target : Id) (b : Builder) :
    b.edges <+: (b.connect source target).edges := by
  simp only [connect]
  split
  · exact List.prefix_rfl
  · exact List.prefix_append _ _

theorem moveTo_edges (id : Id) (b : Builder) : b.edges <+: (b.moveTo id).edges :=
  connect_edges b.cursor id b

theorem noteType_edges (id : Id) (type : Option ValueType) (b : Builder) :
    (b.noteType id type).edges = b.edges := by
  cases type <;> rfl

theorem file_edges (e : Element) (b : Builder) : (b.file e).edges = b.edges := by
  simp only [file]
  split <;> rfl

theorem close_edges (b : Builder) : b.close.edges = b.edges := by
  rw [close]
  split
  · exact file_edges _ _
  · rfl

/-- An element that is filed and entered. -/
theorem enter_edges (id : Id) (type : Option ValueType) (e : Element) (b : Builder) :
    b.edges <+: (((b.noteType id type).file e).moveTo id).edges := by
  refine List.IsPrefix.trans ?_ (moveTo_edges _ _)
  rw [file_edges, noteType_edges]

theorem addNode_edges (label : Text) (detail : Option Text) (source : Option Query)
    (b : Builder) : b.edges <+: (b.addNode label detail source).2.edges :=
  enter_edges _ (source.bind Query.outputType?) _ { b with counter := b.counter + 1 }

theorem stepInvariant_edges (edges : List Edge) : StepInvariant fun b => edges <+: b.edges where
  mark label type b h := h.trans (enter_edges _ _ _ { b with counter := b.counter + 1 })
  opened label detail type b h := by
    refine List.IsPrefix.trans ?_ (moveTo_edges _ _)
    rwa [noteType_edges]
  closed b h := by rwa [close_edges]
  branch seed b h := h
  moved id b h := h.trans (moveTo_edges id b)

/-! ### What the operations do to the rest -/

theorem addNode_counter (label : Text) (detail : Option Text) (source : Option Query)
    (b : Builder) : (b.addNode label detail source).2.counter = b.counter + 1 :=
  (moveTo_counter _ _).trans ((file_counter _ _).trans
    (noteType_counter _ (source.bind Query.outputType?) _))

theorem addNode_simple {b : Builder} (h : Simple b) (label : Text) (detail : Option Text)
    (source : Option Query) : Simple (b.addNode label detail source).2 := by
  have hnext : Simple { b with counter := b.counter + 1 } := h.of_eq rfl rfl
  exact ((hnext.noteType _ (source.bind Query.outputType?)).file _).moveTo _

theorem Bottomed.exists_cons {scopes : List Scope} (h : Bottomed scopes) :
    ∃ container placed outer, scopes = ⟨container, placed⟩ :: outer := by
  obtain ⟨n, hn⟩ := h
  cases scopes with
  | nil => simp at hn
  | cons s outer => exact ⟨s.container, s.elements, outer, rfl⟩

theorem addNode_scopeStep {b : Builder} (hbottom : Bottomed b.scopes) (label : Text)
    (detail : Option Text) (source : Option Query) :
    ScopeStep b.scopes [nodeId b.counter] (b.addNode label detail source).2.scopes := by
  obtain ⟨container, placed, outer, hscopes⟩ := hbottom.exists_cons
  have hnote : ({ b with counter := b.counter + 1 }.noteType (nodeId b.counter)
      (source.bind Query.outputType?)).scopes = ⟨container, placed⟩ :: outer := by
    rw [noteType_scopes, hscopes]
  have hfiled : (b.addNode label detail source).2.scopes =
      ⟨container, placed ++ [.node (nodeId b.counter) label .rectangle detail]⟩ :: outer :=
    (moveTo_scopes _ _).trans (file_scopes hnote)
  rw [hfiled, hscopes]
  exact .filed container placed outer fun path => rfl

/-- Only a container can be closed, and there is a scope around it. -/
theorem closeContainer_scopeStep {b after : Builder} (hbottom : Bottomed b.scopes)
    (h : b.closeContainer = (none, after)) : ScopeStep b.scopes [] after.scopes := by
  obtain ⟨container, inside, outer, hscopes⟩ := hbottom.exists_cons
  cases container with
  | none => simp [closeContainer, hscopes] at h
  | some c =>
    cases outer with
    | nil =>
      obtain ⟨n, hn⟩ := hbottom
      cases n <;> simp [hscopes, Scope.id?, List.replicate_succ] at hn
    | cons s outer =>
      rw [← close_of_closeContainer h, close_scopes hscopes, hscopes]
      exact .closed c inside s.container s.elements outer

/-- A query is drawn at the end of the innermost scope. -/
theorem visitBranch_scopeStep {b : Builder} (hbottom : Bottomed b.scopes) (seed : Id)
    (q : Query) :
    ScopeStep b.scopes (visitIds q (b.startBranch seed)) (b.visitBranch seed q).scopes := by
  obtain ⟨container, placed, outer, hscopes⟩ := hbottom.exists_cons
  have hplaced := drawFlow_placed (q.figures b.expandGroups) (b.startBranch seed)
  rw [visitBranch, visit_eq_drawFlow, visitIds_eq, startBranch_expandGroups,
    hplaced.scopes container placed outer hscopes, hscopes]
  exact .filed container placed outer fun path => declaredIds_flowElements _ path _

end Builder

/-! ### What one operation can do -/

namespace Ledger

/-- An operation gives the ids `new`, of which `ids` are those of elements. -/
structure Step (s : Ledger) (new ids : List Id) (s' : Ledger) : Prop where
  given : s'.given = s.given ++ new
  counter : s'.builder.counter = s.builder.counter + new.length
  numbered : Numbered s.builder.counter new
  drawn : s'.drawn = s.drawn ++ ids
  sublist : ids.Sublist new
  scopes : Builder.ScopeStep s.builder.scopes ids s'.builder.scopes
  simple : Builder.Simple s.builder → Builder.Simple s'.builder
  edges : s.builder.edges <+: s'.builder.edges

theorem Step.quiet {s : Ledger} {b : Builder} (hcounter : b.counter = s.builder.counter)
    (hscopes : Builder.ScopeStep s.builder.scopes [] b.scopes)
    (hsimple : Builder.Simple s.builder → Builder.Simple b) (hedges : s.builder.edges <+: b.edges) :
    s.Step [] [] { s with builder := b } :=
  ⟨(List.append_nil _).symm, hcounter, trivial, (List.append_nil _).symm, List.nil_sublist _,
    hscopes, hsimple, hedges⟩

theorem Step.drawing {s : Ledger} {ids : List Id} {b : Builder}
    (hids : ids = nodeIds s.builder.counter ids.length)
    (hcounter : b.counter = s.builder.counter + ids.length)
    (hscopes : Builder.ScopeStep s.builder.scopes ids b.scopes)
    (hsimple : Builder.Simple s.builder → Builder.Simple b) (hedges : s.builder.edges <+: b.edges) :
    s.Step ids ids (s.draw ids b) :=
  ⟨rfl, hcounter, hids ▸ numbered_nodeIds _ _, rfl, List.Sublist.refl ids, hscopes, hsimple, hedges⟩

/-- What an operation can do. -/
theorem perform_step {s s' : Ledger} {op : Builder.Op} (hbottom : Builder.Bottomed s.builder.scopes)
    (h : s.perform op = some s') : ∃ new ids, s.Step new ids s' := by
  cases op with
  | nextId start =>
    obtain rfl := Option.some.inj h
    exact ⟨[_], [], rfl, rfl, ⟨⟨start, rfl⟩, trivial⟩, (List.append_nil _).symm,
      List.nil_sublist _, .same _, fun hsimple => hsimple.of_eq rfl rfl, List.prefix_rfl⟩
  | connect source target =>
    obtain rfl := Option.some.inj h
    exact ⟨[], [], .quiet (Builder.connect_counter source target _)
      (Builder.connect_scopes source target _ ▸ .same _) (fun hsimple => hsimple.connect _ _)
      (Builder.connect_edges source target _)⟩
  | startBranch seed =>
    obtain rfl := Option.some.inj h
    exact ⟨[], [], .quiet rfl (.same _) (fun hsimple => hsimple.startBranch seed) List.prefix_rfl⟩
  | addNode label detail source =>
    obtain rfl := Option.some.inj h
    exact ⟨_, _, .drawing rfl (Builder.addNode_counter label detail source _)
      (Builder.addNode_scopeStep hbottom label detail source)
      (fun hsimple => Builder.addNode_simple hsimple label detail source)
      (Builder.addNode_edges label detail source _)⟩
  | openContainer label detail source =>
    simp only [perform, Builder.openContainer_eq] at h
    obtain rfl := Option.some.inj h
    refine ⟨_, _, .drawing rfl (Builder.drawOpen_counter _ _ _ _) ?_
      (fun hsimple => hsimple.drawOpen _ _ _)
      ((Builder.stepInvariant_edges _).opened _ _ _ _ List.prefix_rfl)⟩
    rw [Builder.drawOpen_scopes]
    exact .opened ⟨_, label, detail⟩ _
  | closeContainer =>
    simp only [perform] at h
    split at h
    · next b hclose =>
      obtain rfl := Option.some.inj h
      obtain rfl : s.builder.close = b := Builder.close_of_closeContainer hclose
      exact ⟨[], [], .quiet (Builder.close_counter _)
        (Builder.closeContainer_scopeStep hbottom hclose) (fun hsimple => hsimple.close)
        (Builder.close_edges _ ▸ List.prefix_rfl)⟩
    · exact absurd h (by simp)
  | visitBranch seed q =>
    simp only [perform] at h
    split at h
    · obtain rfl := Option.some.inj h
      have hids := Builder.visitIds_eq q (s.builder.startBranch seed)
      refine ⟨_, _, .drawing ?_ ?_ (Builder.visitBranch_scopeStep hbottom seed q) (fun hsimple => ?_) ?_⟩
      · rw [hids, length_nodeIds]
        rfl
      · rw [hids, length_nodeIds]
        exact Builder.visit_counter q (s.builder.startBranch seed)
      · rw [Builder.visitBranch, Builder.visit_eq_drawFlow]
        exact drawFlow_simple _ (hsimple.startBranch seed)
      · rw [Builder.visitBranch, Builder.visit_eq_drawFlow]
        exact drawFlow_keeps (Builder.stepInvariant_edges _) _ List.prefix_rfl
    · exact absurd h (by simp)

/-! ### What holds after any operations -/

/-- What every operation keeps. -/
structure Invariant (s : Ledger) : Prop where
  counter : s.builder.counter = s.given.length
  numbered : Numbered 0 s.given
  drawn : s.drawn.Sublist s.given
  simple : Builder.Simple s.builder
  bottomed : Builder.Bottomed s.builder.scopes
  held : ∀ id, (Builder.filedIds s.builder.scopes).count id +
    (Builder.openIds s.builder.scopes).count id = s.drawn.count id

theorem invariant_fresh (expand : Bool) : (fresh expand).Invariant where
  counter := rfl
  numbered := trivial
  drawn := List.Sublist.refl _
  simple := ⟨rfl, List.nodup_nil, fun _ hp => absurd hp List.not_mem_nil⟩
  bottomed := ⟨0, rfl⟩
  held _ := rfl

theorem Invariant.step {s s' : Ledger} {new ids : List Id} (h : s.Invariant)
    (hstep : s.Step new ids s') : s'.Invariant where
  counter := by rw [hstep.counter, hstep.given, h.counter, List.length_append]
  numbered := by
    rw [hstep.given]
    refine numbered_append h.numbered ?_
    rw [Nat.zero_add, ← h.counter]
    exact hstep.numbered
  drawn := by
    rw [hstep.drawn, hstep.given]
    exact h.drawn.append hstep.sublist
  simple := hstep.simple h.simple
  bottomed := hstep.scopes.bottomed h.bottomed
  held id := by rw [hstep.scopes.count_held, h.held, hstep.drawn, List.count_append]

end Ledger

/-- The second drawing only appends to the first: to its edges, and to what is filed at any place. -/
structure Builder.Extends (b b' : Builder) : Prop where
  edges : b.edges <+: b'.edges
  filed : ∀ path, filedAt b.scopes path <+: filedAt b'.scopes path

theorem Builder.Extends.refl (b : Builder) : b.Extends b :=
  ⟨List.prefix_rfl, fun _ => List.prefix_rfl⟩

theorem Builder.Extends.trans {a b c : Builder} (h : a.Extends b) (h' : b.Extends c) :
    a.Extends c :=
  ⟨h.edges.trans h'.edges, fun path => (h.filed path).trans (h'.filed path)⟩

namespace Ledger

theorem Step.extends {s s' : Ledger} {new ids : List Id} (h : s.Step new ids s') :
    s.builder.Extends s'.builder :=
  ⟨h.edges, h.scopes.filedAt_isPrefix⟩

/-- What one operation keeps, any number of operations keep. -/
theorem Invariant.run {s s' : Ledger} {ops : List Builder.Op} (h : s.Invariant)
    (hrun : s.run ops = some s') : s'.Invariant ∧ s.builder.Extends s'.builder := by
  induction ops generalizing s with
  | nil =>
    obtain rfl := Option.some.inj hrun
    exact ⟨h, .refl _⟩
  | cons op ops ih =>
    obtain ⟨mid, hperform, hrest⟩ := Option.bind_eq_some_iff.mp hrun
    obtain ⟨new, ids, hstep⟩ := perform_step h.bottomed hperform
    obtain ⟨hinvariant, hextends⟩ := ih (h.step hstep) hrest
    exact ⟨hinvariant, hstep.extends.trans hextends⟩

/-- No id is given twice, and the counter is the number of ids that have been given. The edges are
those of the connected pairs, each once and of two different ids. Only the last scope belongs to no
container. An id that was given to an element is filed once, or is that of one open container; no
other id is either. -/
structure Sound (s : Ledger) : Prop where
  given_nodup : s.given.Nodup
  counter : s.builder.counter = s.given.length
  drawn : s.drawn.Sublist s.given
  source_ne_target : ∀ e ∈ s.builder.edges, e.source ≠ e.target
  pairs_nodup : (s.builder.edges.map Edge.ends).Nodup
  connected : ∀ p, p ∈ s.builder.connected ↔ p ∈ s.builder.edges.map Edge.ends
  bottomed : Builder.Bottomed s.builder.scopes
  held : ∀ id, (Builder.filedIds s.builder.scopes).count id +
    (Builder.openIds s.builder.scopes).count id = if id ∈ s.drawn then 1 else 0

theorem Invariant.sound {s : Ledger} (h : s.Invariant) : s.Sound where
  given_nodup := h.numbered.nodup
  counter := h.counter
  drawn := h.drawn
  source_ne_target _ he := h.simple.source_ne_target he
  pairs_nodup := h.simple.pairs_nodup
  connected p := by rw [h.simple.connected, List.mem_reverse]
  bottomed := h.bottomed
  held id := by rw [h.held, (h.numbered.nodup.sublist h.drawn).count]

/-- After any operations in a row that raise no error the drawing is sound, and it has only been
appended to since any earlier one of them. -/
theorem run_sound {expand : Bool} {ops : List Builder.Op} {s : Ledger}
    (h : (fresh expand).run ops = some s) :
    s.Sound ∧ ∀ before after, ops = before ++ after →
      ∃ mid, (fresh expand).run before = some mid ∧ mid.builder.Extends s.builder := by
  refine ⟨((invariant_fresh expand).run h).1.sound, ?_⟩
  rintro before after rfl
  rw [run_append] at h
  obtain ⟨mid, hbefore, hafter⟩ := Option.bind_eq_some_iff.mp h
  have hmid := ((invariant_fresh expand).run hbefore).1
  exact ⟨mid, hbefore, (hmid.run hafter).2⟩

/-- A query drawn inside a container that is closed later, with ids that look like those of
elements given in between. -/
theorem run_sound_mixed :
    ∃ s, (fresh false).run [.nextId "node", .openContainer "box" none none, .nextId "node_1",
        .visitBranch "elsewhere" (.pipe .identity (.call "f" [.number "1"])),
        .connect "node_0" "node_0", .addNode "late" (some "detail") none, .closeContainer,
        .startBranch "node_0", .connect "node_6" "node_0"] = some s ∧
      s.given = ["node_0", "node_1", "node_1_2", "node_3", "node_4", "node_5",
        "node_6"].map Text.ofString ∧ s.Sound := by
  obtain ⟨s, hrun, hgiven⟩ : ∃ s, (fresh false).run [.nextId "node",
      .openContainer "box" none none, .nextId "node_1",
      .visitBranch "elsewhere" (.pipe .identity (.call "f" [.number "1"])),
      .connect "node_0" "node_0", .addNode "late" (some "detail") none, .closeContainer,
      .startBranch "node_0", .connect "node_6" "node_0"] = some s ∧
      s.given = ["node_0", "node_1", "node_1_2", "node_3", "node_4", "node_5",
        "node_6"].map Text.ofString := ⟨_, rfl, by decide⟩
  exact ⟨s, hrun, hgiven, (run_sound hrun).1⟩

end Ledger

end JqFlow
