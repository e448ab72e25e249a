import JqFlow.Proofs.Script.Faithful

/-!
# The blocks of a script

What a script says after its header can be read without the graph: nested blocks up to an empty line,
then a line for every edge. The paths by which these lines address elements lead through the blocks.

## Main definitions

- `Script.Declaration`: a block with the blocks directly inside it
- `Script.readBody?`: the blocks that a script declares, and the lines after them
- `Script.Resolves`: does a path lead through blocks, each directly inside the one before?
- `Script.Connects`: does a line address both ends of an edge by such paths?

## Main statements

- `Script.readBlocks_declareAll`: the blocks that are read are nested as the elements are
- `Graph.script?_eq_mapM`: a script is refused where the path of an end is not found
- `Graph.script?_resolves`: which graphs have a script, and what it says if they are graphs of queries
-/

namespace JqFlow
namespace Script

/-- A block of a script: its name, and the blocks directly inside it. -/
inductive Declaration
  | block (name : Text) (inside : List Declaration)

/-- What a line does: it opens a block, closes the one it is in, or tells something about it. -/
inductive LineKind
  | opens (name : Text)
  | closes
  | tells

/-- What a line does, by its text without the margin. -/
def lineKind (l : Text) : LineKind :=
  let t := l.trimStart fun c => c = ' '
  if t = "\x7d" then .closes
  else if List.isSuffixOf ": \x7b" t then .opens (t.take (t.length - 3))
  else .tells

/-- Reads the lines of blocks, up to an empty line outside of all blocks: the blocks, and the lines
after it. The blocks `around` are open, innermost first, each with the blocks before it; `before` are
the blocks that have been read where the next one would be. -/
def readBlocks (around : List (Text × List Declaration)) (before : List Declaration) :
    List Text → Option (List Declaration × List Text)
  | [] => none
  | l :: ls =>
    if around.isEmpty && l.isEmpty then some (before, ls)
    else
      match lineKind l with
      | .opens name => readBlocks ((name, before) :: around) [] ls
      | .tells => readBlocks around before ls
      | .closes =>
        match around with
        | (name, outer) :: around => readBlocks around (outer ++ [.block name before]) ls
        | [] => none

/-- What a script says after its header: the blocks that it declares, and the lines after them. -/
def readBody? (body : Text) : Option (List Declaration × List Text) :=
  (readBlocks [] [] (body.splitOn '\n')).map fun p => (p.1, p.2.dropLast)

/-- Does a path lead through blocks, each directly inside the one before? -/
inductive Resolves : List Declaration → List Text → Prop
  | last {ds inside : List Declaration} {name : Text} (h : .block name inside ∈ ds) :
    Resolves ds [name]
  | step {ds inside : List Declaration} {name : Text} {path : List Text}
    (h : .block name inside ∈ ds) (hpath : Resolves inside path) : Resolves ds (name :: path)

/-- Is this the path of a block that has an id as its name? -/
def LeadsTo (ds : List Declaration) (path : Text) (id : Id) : Prop :=
  Resolves ds (path.splitOn '.') ∧ (path.splitOn '.').getLast? = some id

/-- Does a line address both ends of an edge by their paths? -/
def Connects (ds : List Declaration) (e : Edge) (l : Text) : Prop :=
  ∃ source target, l = source ++ " -> " ++ target ++ labelPart e.label ∧
    LeadsTo ds source e.source ∧ LeadsTo ds target e.target

/-! ### Lines of blocks -/

theorem trimStart_indent (depth : Nat) {t : Text} (h : t.head? ≠ some (.scalar ' ')) :
    Text.trimStart (fun c => c = ' ') (indent depth ++ t) = t := by
  rw [Text.trimStart, List.dropWhile_append_of_pos fun c hc => by
    simp [List.eq_of_mem_replicate hc]]
  cases t with
  | nil => rfl
  | cons c t =>
    rw [List.dropWhile_cons_of_neg]
    simpa using h

theorem lineKind_opening (depth : Nat) {id : Id} (h : Bare id) :
    lineKind (opening depth id) = .opens id := by
  have hhead : (id ++ (": \x7b" : Text)).head? ≠ some (.scalar ' ') := by
    cases id with
    | nil => decide
    | cons c id =>
      intro hc
      exact h c List.mem_cons_self (Option.some.inj hc ▸ by decide)
  have hclose : id ++ (": \x7b" : Text) ≠ "\x7d" := by
    intro hc
    exact absurd (congrArg List.getLast? hc) (by simp [Text.ofString])
  rw [lineKind, opening, List.append_assoc, trimStart_indent depth hhead, if_neg hclose, if_pos]
  · simp [Text.ofString]
  · rw [List.isSuffixOf_iff_suffix]
    exact List.suffix_append _ _

theorem lineKind_closing (depth : Nat) : lineKind (closing depth) = .closes := by
  rw [lineKind, closing, trimStart_indent depth (by decide), if_pos rfl]

/-- A line that ends in no brace tells something. -/
theorem lineKind_tells {l : Text} (h : ¬EndsBraced l) : lineKind l = .tells := by
  obtain ⟨margin, hmargin⟩ : l.trimStart (fun c => c = ' ') <:+ l := List.dropWhile_suffix _
  have hlast {t : Text} (ht : t ≠ []) (hsuffix : t <:+ l.trimStart fun c => c = ' ') :
      l.getLast? = t.getLast? := by
    obtain ⟨u, hu⟩ := hsuffix
    rw [← hmargin, ← hu, ← List.append_assoc, getLast?_append_text _ ht]
  rw [lineKind, if_neg, if_neg]
  · intro hopens
    exact h (.inl (hlast (by decide) (List.isSuffixOf_iff_suffix.mp hopens)))
  · intro hcloses
    have hsuffix : ("\x7d" : Text) <:+ l.trimStart fun c => c = ' ' :=
      hcloses.symm ▸ List.suffix_refl _
    exact h (.inr (hlast (by decide) hsuffix))

/-! ### Reading blocks -/

section Reading

variable {around : List (Text × List Declaration)} {before : List Declaration} {l : Text}
  {ls rest : List Text}

theorem readBlocks_opens {name : Text} (h : lineKind l = .opens name) (hl : l ≠ []) :
    readBlocks around before (l :: ls) = readBlocks ((name, before) :: around) [] ls := by
  simp [readBlocks, h, hl]

theorem readBlocks_closes {name : Text} {outer : List Declaration} (h : lineKind l = .closes) :
    readBlocks ((name, outer) :: around) before (l :: ls) =
      readBlocks around (outer ++ [.block name before]) ls := by
  simp [readBlocks, h]

/-- Lines that tell something about the block they are in. -/
theorem readBlocks_tells (ha : around ≠ []) (h : ∀ l ∈ ls, lineKind l = .tells) :
    readBlocks around before (ls ++ rest) = readBlocks around before rest := by
  induction ls with
  | nil => rfl
  | cons l ls ih =>
    have hstep : readBlocks around before (l :: (ls ++ rest)) =
        readBlocks around before (ls ++ rest) := by
      simp [readBlocks, h l List.mem_cons_self, ha]
    rw [List.cons_append, hstep, ih fun l' hl' => h l' (List.mem_cons_of_mem _ hl')]

end Reading

mutual

/-- The block of an element. -/
def blockOf : Element → Declaration
  | .node id .. => .block id []
  | .container id _ children _ => .block id (blocksOf children)

/-- The blocks of several elements. -/
def blocksOf : List Element → List Declaration
  | [] => []
  | e :: es => blockOf e :: blocksOf es

end

theorem tells_tooltip (depth : Nat) (e : Element) : ∀ l ∈ tooltip depth e, lineKind l = .tells := by
  intro l hl
  rw [tooltip] at hl
  split at hl
  · split at hl
    · exact absurd hl List.not_mem_nil
    · rw [List.mem_singleton.mp hl]
      exact lineKind_tells fun hbraced =>
        not_endsQuoted_of_endsBraced hbraced (endsQuoted_quote _ _)
  · exact absurd hl List.not_mem_nil

/-- An element is read as its block, whatever is open around it. -/
theorem readBlocks_element {around : List (Text × List Declaration)} {before : List Declaration}
    {e : Element} {inner : List Declaration} (hid : Bare e.id) (depth : Nat) (rest : List Text)
    (hinside : ∀ rest, readBlocks ((e.id, before) :: around) [] (inside depth e ++ rest) =
      readBlocks ((e.id, before) :: around) inner rest) :
    readBlocks around before (declare depth e ++ rest) =
      readBlocks around (before ++ [.block e.id inner]) rest := by
  have hopening : opening depth e.id ≠ [] := by simp [opening, Text.ofString]
  have hlabel : lineKind (indent (depth + 1) ++ "label: " ++ quote e.label) = .tells :=
    lineKind_tells fun hbraced => not_endsQuoted_of_endsBraced hbraced (endsQuoted_quote _ _)
  rw [declare_append, readBlocks_opens (lineKind_opening depth hid) hopening,
    ← List.cons_append, readBlocks_tells (by simp), hinside,
    readBlocks_closes (lineKind_closing depth)]
  intro l hl
  rcases List.mem_cons.mp hl with rfl | hl
  · exact hlabel
  · exact tells_tooltip (depth + 1) e l hl

mutual

theorem readBlocks_declare (e : Element) (depth : Nat) {outer : List Id}
    (h : ∀ x ∈ e.preorder outer, Bare x.2.id) (around : List (Text × List Declaration))
    (before : List Declaration) (rest : List Text) :
    readBlocks around before (declare depth e ++ rest) =
      readBlocks around (before ++ [blockOf e]) rest := by
  cases e with
  | node id label shape detail =>
    refine readBlocks_element (h _ List.mem_cons_self) depth rest fun rest => ?_
    refine readBlocks_tells (by simp) fun l hl => ?_
    rw [List.mem_singleton.mp hl]
    exact lineKind_tells (not_ends_shapeLine _ shape).2
  | container id label children detail =>
    refine readBlocks_element (h _ List.mem_cons_self) depth rest fun rest => ?_
    exact readBlocks_declareAll children (depth + 1) (fun x hx => h x (List.mem_cons_of_mem _ hx)) _ _
      rest

/-- The blocks that are read are nested as the elements are. -/
theorem readBlocks_declareAll (es : List Element) (depth : Nat) {outer : List Id}
    (h : ∀ x ∈ Element.preorderList outer es, Bare x.2.id)
    (around : List (Text × List Declaration)) (before : List Declaration) (rest : List Text) :
    readBlocks around before (declareAll depth es ++ rest) =
      readBlocks around (before ++ blocksOf es) rest := by
  cases es with
  | nil => simp [declareAll, blocksOf]
  | cons e es =>
    rw [declareAll, List.append_assoc,
      readBlocks_declare e depth fun x hx => h x (List.mem_append_left _ hx),
      readBlocks_declareAll es depth fun x hx => h x (List.mem_append_right _ hx), blocksOf,
      List.append_assoc]
    rfl

end

/-! ### Paths -/

theorem splitOn_dotted {ancestors : List Id} {id : Id} (ha : ∀ a ∈ ancestors, Bare a)
    (hid : Bare id) : Text.splitOn '.' (Graph.dotted ancestors id) = ancestors ++ [id] := by
  have hdot : CodePoint.scalar '.' ∈ separators := by decide
  refine Text.splitOn_join fun u hu hin => ?_
  rcases List.mem_append.mp hu with hu | hu
  · exact ha u hu _ hin hdot
  · exact hid _ (List.mem_singleton.mp hu ▸ hin) hdot

theorem Resolves.mono {ds ds' : List Declaration} {path : List Text} (h : Resolves ds path)
    (hsub : ds ⊆ ds') : Resolves ds' path := by
  cases h with
  | last hmem => exact .last (hsub hmem)
  | step hmem hpath => exact .step (hsub hmem) hpath

mutual

/-- The ids on the way to an element lead through the blocks. -/
theorem resolves_element (e : Element) (outer : List Id) :
    ∀ x ∈ e.preorder outer, ∃ path, x.1 ++ [x.2.id] = outer ++ path ∧ Resolves [blockOf e] path := by
  intro x hx
  cases e with
  | node id label shape detail =>
    rw [List.mem_singleton.mp hx]
    exact ⟨[id], rfl, .last List.mem_cons_self⟩
  | container id label children detail =>
    rcases List.mem_cons.mp hx with rfl | hx
    · exact ⟨[id], rfl, .last List.mem_cons_self⟩
    · obtain ⟨path, hpath, hresolves⟩ := resolves_elements children (outer ++ [id]) x hx
      exact ⟨id :: path, by simpa using hpath, .step List.mem_cons_self hresolves⟩

theorem resolves_elements (es : List Element) (outer : List Id) :
    ∀ x ∈ Element.preorderList outer es,
      ∃ path, x.1 ++ [x.2.id] = outer ++ path ∧ Resolves (blocksOf es) path := by
  intro x hx
  cases es with
  | nil => exact absurd hx List.not_mem_nil
  | cons e es =>
    rcases List.mem_append.mp hx with hx | hx
    · obtain ⟨path, hpath, hresolves⟩ := resolves_element e outer x hx
      exact ⟨path, hpath, hresolves.mono (by simp [blocksOf])⟩
    · obtain ⟨path, hpath, hresolves⟩ := resolves_elements es outer x hx
      exact ⟨path, hpath, hresolves.mono (List.subset_cons_self _ _)⟩

end

/-- Where all ids are bare, the address of an element is the path of its block. -/
theorem leadsTo_address {g : Graph} (hbare : ∀ e ∈ g.nodes, Bare e.id) {id : Id}
    (h : g.contains id) : LeadsTo (blocksOf g.elements) (address g id) id := by
  obtain ⟨x, hx, rfl, hpath⟩ := Graph.exists_pathOf? h
  have hid : Bare x.2.id := hbare x.2 (List.mem_map.mpr ⟨x, hx, rfl⟩)
  have hwalk := hx
  rw [Graph.walk_eq_preorder] at hwalk
  obtain ⟨path, hsame, hresolves⟩ := resolves_elements g.elements [] x hwalk
  rw [LeadsTo, address, hpath, Option.getD_some, splitOn_dotted (bare_ancestors hbare hx) hid]
  exact ⟨hsame ▸ hresolves, List.getLast?_concat⟩

end Script

namespace Graph

open Script (Bare OneLine)

/-! ### Refused scripts -/

/-- The path of an element, or its id if it has none. -/
def path? (g : Graph) (id : Id) : Except Id Text :=
  match g.pathOf? id with
  | some path => .ok path
  | none => .error id

/-- The line of an edge, or the first of its ends that has no path. -/
def edgeLine? (g : Graph) (e : Edge) : Except Id Text := do
  let source ← g.path? e.source
  let target ← g.path? e.target
  return source ++ " -> " ++ target ++ Script.labelPart e.label

theorem path?_of_contains {g : Graph} {id : Id} (h : g.contains id) :
    g.path? id = .ok (Script.address g id) := by
  obtain ⟨x, -, -, hpath⟩ := exists_pathOf? h
  rw [path?, Script.address, hpath]
  rfl

theorem path?_of_not_contains {g : Graph} {id : Id} (h : g.contains id = false) :
    g.path? id = .error id := by
  rw [path?, pathOf?_eq_none_iff.mpr h]

/-- Looking the paths up edge by edge, either all are found, or the first end that is declared
nowhere stops it. -/
theorem mapM_edgeLine? (g : Graph) (es : List Edge) :
    es.mapM g.edgeLine? =
      match (es.flatMap fun e => [e.source, e.target]).find? fun id => !g.contains id with
      | some id => .error id
      | none => .ok (es.map (Script.edgeLine g)) := by
  induction es with
  | nil => rfl
  | cons e es ih =>
    rw [List.mapM_cons, ih, edgeLine?]
    cases hsource : g.contains e.source with
    | false => simp [path?_of_not_contains hsource, hsource, bind, Except.bind]
    | true =>
      cases htarget : g.contains e.target with
      | false =>
        simp [path?_of_contains hsource, path?_of_not_contains htarget, hsource, htarget, bind,
          Except.bind]
      | true =>
        simp only [path?_of_contains hsource, path?_of_contains htarget, List.flatMap_cons,
          List.cons_append, List.nil_append, List.find?_cons, hsource, htarget, Bool.not_true,
          List.map_cons, Script.edgeLine_eq]
        cases (es.flatMap fun e => [e.source, e.target]).find? fun id => !g.contains id <;> rfl

/-- A script is refused where the path of an end of an edge is looked up and not found. -/
theorem script?_eq_mapM (g : Graph) (title direction : Text) :
    g.script? title direction = (g.edges.mapM g.edgeLine?).map fun lines =>
      (Script.header title direction ++ Script.declareAll 0 g.elements ++ [[]] ++ lines).flatMap
        withNewline := by
  rw [mapM_edgeLine?, script?, loose?]
  cases (g.edges.flatMap fun e => [e.source, e.target]).find? fun id => !g.contains id with
  | some id => rfl
  | none => exact congrArg Except.ok (g.script_eq title direction)

/-- A script is refused exactly if some end is declared nowhere. -/
theorem script?_error_iff (g : Graph) (title direction : Text) :
    (∃ id, g.script? title direction = .error id) ↔ g.undeclared ≠ [] := by
  have hfound : (∃ id, g.script? title direction = .error id) ↔ g.loose? ≠ none := by
    rw [script?]
    cases g.loose? <;> simp
  rw [hfound, loose?, ne_eq, List.find?_eq_none, ne_eq, List.eq_nil_iff_forall_not_mem]
  simp only [mem_undeclared_iff, not_and, Bool.not_eq_true', Bool.not_eq_false]

/-! ### Graphs of queries -/

namespace Legible

variable {g : Graph}

/-- The script of a legible graph is read as blocks that are nested as its elements are, and the lines
of its edges. -/
theorem exists_body (h : g.Legible) (title direction : Text) :
    ∃ body, g.script? title direction =
        .ok ((Script.header title direction).flatMap withNewline ++ body) ∧
      Script.readBody? body =
        some (Script.blocksOf g.elements, g.edges.map (Script.edgeLine g)) := by
  have hlines : ∀ l ∈ Script.declareAll 0 g.elements ++ [[]] ++ g.edges.map (Script.edgeLine g),
      OneLine l := by
    intro l hl
    refine h.oneLine [] (show OneLine ([] : Text) by decide) l ?_
    simp only [scriptLines, List.append_assoc] at hl ⊢
    exact List.mem_append_right _ hl
  have hids : ∀ x ∈ Element.preorderList [] g.elements, Bare x.2.id := by
    intro x hx
    rw [← walk_eq_preorder] at hx
    exact h.bare x.2 (List.mem_map.mpr ⟨x, hx, rfl⟩)
  refine ⟨(Script.declareAll 0 g.elements ++ [[]] ++ g.edges.map (Script.edgeLine g)).flatMap
    withNewline, ?_, ?_⟩
  · rw [h.script?_eq, script_eq, scriptLines, ← List.flatMap_append]
    simp only [List.append_assoc]
  · have hcut : Text.splitOn '\n' ((Script.declareAll 0 g.elements ++ [[]] ++
        g.edges.map (Script.edgeLine g)).flatMap withNewline) =
        Script.declareAll 0 g.elements ++ ([] :: (g.edges.map (Script.edgeLine g) ++ [[]])) := by
      rw [← List.append_nil (List.flatMap _ _)]
      refine (Text.splitOn_flatMap hlines List.not_mem_nil).trans ?_
      simp
    rw [Script.readBody?, hcut, Script.readBlocks_declareAll g.elements 0 hids]
    simp [Script.readBlocks]

/-- The lines of the edges of a legible graph address their ends by paths of its blocks. -/
theorem connects (h : g.Legible) :
    List.Forall₂ (Script.Connects (Script.blocksOf g.elements)) g.edges
      (g.edges.map (Script.edgeLine g)) := by
  rw [List.forall₂_map_right_iff, List.forall₂_same]
  exact fun e he => ⟨_, _, Script.edgeLine_eq g e, Script.leadsTo_address h.bare (h.source e he),
    Script.leadsTo_address h.bare (h.target e he)⟩

end Legible

/-- The paths of the ends are looked up for the lines of the edges, and a script is refused where one
is not found; so it is exactly if an edge has an end that is declared nowhere. The script of the graph
of a query can be read without the graph, and the lines of its edges address their ends by paths of
the blocks that it declares. -/
theorem script?_resolves :
    (∀ (g : Graph) (title direction : Text),
      g.script? title direction = (g.edges.mapM g.edgeLine?).map (fun lines =>
        (Script.header title direction ++ Script.declareAll 0 g.elements ++ [[]] ++ lines).flatMap
          withNewline) ∧
      ((∃ id, g.script? title direction = .error id) ↔ g.undeclared ≠ [])) ∧
    ∀ (q : Option Query) (expand : Bool) (g : Graph) (title direction : Text),
      build? q expand = .ok g →
        ∃ body blocks lines,
          g.script? title direction =
            .ok ((Script.header title direction).flatMap withNewline ++ body) ∧
          Script.readBody? body = some (blocks, lines) ∧
          List.Forall₂ (Script.Connects blocks) g.edges lines := by
  refine ⟨fun g title direction =>
    ⟨g.script?_eq_mapM title direction, g.script?_error_iff title direction⟩,
    fun q expand g title direction hbuild => ?_⟩
  obtain ⟨q, rfl⟩ := exists_build_of_build? hbuild
  have hlegible := build_legible q expand
  obtain ⟨body, hscript, hbody⟩ := hlegible.exists_body title direction
  exact ⟨body, _, _, hscript, hbody, hlegible.connects⟩

/-- An edge into an array. -/
theorem script?_resolves_array :
    build? (some (.array (some .identity))) false =
        .ok (build (some (.array (some .identity))) false) ∧
      ∃ body blocks lines,
        (build (some (.array (some .identity))) false).script? =
          .ok ((Script.header Script.defaultTitle Script.defaultDirection).flatMap withNewline ++
            body) ∧
        Script.readBody? body = some (blocks, lines) ∧
        List.Forall₂ (Script.Connects blocks)
          (build (some (.array (some .identity))) false).edges lines := by
  have hbuild : build? (some (.array (some .identity))) false =
      .ok (build (some (.array (some .identity))) false) := rfl
  exact ⟨hbuild, script?_resolves.2 _ _ _ _ _ hbuild⟩

end Graph
end JqFlow
