import JqFlow.Proofs.Reading.Clauses

/-!
# Regular queries

A query is regular if it is put together as the reader of query text puts queries together, except
that any operation may stand on either side of another. Regular queries are those whose printed texts
can be read part by part.

## Main definitions

- `Query.ungroup`: a query without its parentheses
- `Query.Throughout`: every part of a query has a property
- `Query.level`, `Query.leads`, `Query.endsOpen`: how the printed text of a query is read
- `Query.IsPrintable`: the text of a query shows known parts only
- `Query.IsRegular`: what is asked of each part of a regular query
- `Query.hasPlainField`, `Query.pipesNoLabel`, `Query.isGrouped`, `Query.keepsAttempt`: what can be
  wrong with the printed text of a part

## Main statements

- `Query.unprintable?_eq_none_iff`: which queries have a source text
-/

namespace JqFlow

open Text (Closes)

namespace Query

mutual

/-- A query without its parentheses. The text of a computed key is left out, since it may contain
some. -/
def ungroup : Query → Query
  | operation op l r => operation op (ungroupOption l) (ungroupOption r)
  | index name key e => index name key (ungroupOption e)
  | slice start stop => slice (ungroupOption start) (ungroupOption stop)
  | call name args => call name (ungroupList args)
  | array body => array (ungroupOption body)
  | object entries => object (ungroupEntries entries)
  | unary op operand => unary op (ungroup operand)
  | cond test branch elifs otherwise =>
    cond (ungroup test) (ungroup branch) (ungroupPairs elifs) (ungroupOption otherwise)
  | attempt body handler => attempt (ungroup body) (ungroupOption handler)
  | reduce source name init update => reduce (ungroup source) name (ungroup init) (ungroup update)
  | foreach source name init update extract =>
    foreach (ungroup source) name (ungroup init) (ungroup update) (ungroupOption extract)
  | label name body => label name (ungroup body)
  | bind source name body => bind (ungroup source) name (ungroup body)
  | group body => ungroup body
  | q => q

/-- What may be absent, without parentheses. -/
def ungroupOption : Option Query → Option Query
  | none => none
  | some q => some (ungroup q)

/-- Several queries without parentheses. -/
def ungroupList : List Query → List Query
  | [] => []
  | q :: qs => ungroup q :: ungroupList qs

/-- Entries without parentheses. -/
def ungroupEntries : List (Entry Query) → List (Entry Query)
  | [] => []
  | ⟨key, value, none⟩ :: entries => ⟨key, ungroup value, none⟩ :: ungroupEntries entries
  | ⟨_, value, some e⟩ :: entries => ⟨[], ungroup value, some (ungroup e)⟩ :: ungroupEntries entries

/-- Pairs of queries without parentheses. -/
def ungroupPairs : List (Query × Query) → List (Query × Query)
  | [] => []
  | (test, branch) :: rest => (ungroup test, ungroup branch) :: ungroupPairs rest

end

/-- An entry without parentheses. -/
def ungroupEntry : Entry Query → Entry Query
  | ⟨key, value, none⟩ => ⟨key, ungroup value, none⟩
  | ⟨_, value, some e⟩ => ⟨[], ungroup value, some (ungroup e)⟩

@[simp] theorem ungroupOption_eq (o : Option Query) : ungroupOption o = o.map ungroup := by
  cases o <;> rfl

@[simp] theorem ungroupList_eq (qs : List Query) : ungroupList qs = qs.map ungroup := by
  induction qs with
  | nil => rfl
  | cons q qs ih => rw [ungroupList, ih, List.map_cons]

@[simp] theorem ungroupEntries_eq (es : List (Entry Query)) :
    ungroupEntries es = es.map ungroupEntry := by
  induction es with
  | nil => rfl
  | cons e es ih =>
    obtain ⟨key, value, keyExpr⟩ := e
    cases keyExpr <;> rw [ungroupEntries, ih, List.map_cons] <;> rfl

@[simp] theorem ungroupPairs_eq (ps : List (Query × Query)) :
    ungroupPairs ps = ps.map (Prod.map ungroup ungroup) := by
  induction ps with
  | nil => rfl
  | cons p ps ih => rw [ungroupPairs, ih, List.map_cons]; rfl

/-! ### Parts -/

/-- The parts of an entry that are queries. -/
def entryParts (e : Entry Query) : List Query :=
  e.value :: e.keyExpr.toList

/-- The queries that a query is put together from. -/
def parts : Query → List Query
  | operation _ l r => l.toList ++ r.toList
  | index _ _ e => e.toList
  | slice start stop => start.toList ++ stop.toList
  | call _ args => args
  | array body => body.toList
  | object entries => entries.flatMap entryParts
  | unary _ operand => [operand]
  | cond test branch elifs otherwise =>
    test :: branch :: (elifs.flatMap fun p => [p.1, p.2]) ++ otherwise.toList
  | attempt body handler => body :: handler.toList
  | reduce source _ init update => [source, init, update]
  | foreach source _ init update extract => source :: init :: update :: extract.toList
  | label _ body => [body]
  | bind source _ body => [source, body]
  | group body => [body]
  | _ => []

/-- A query and everything it is put together from have a property. -/
inductive Throughout (P : Query → Prop) : Query → Prop
  | intro {q : Query} (here : P q) (below : ∀ p ∈ q.parts, Throughout P p) : Throughout P q

theorem throughout_iff {P : Query → Prop} {q : Query} :
    q.Throughout P ↔ P q ∧ ∀ p ∈ q.parts, p.Throughout P :=
  ⟨fun h => by cases h with | intro here below => exact ⟨here, below⟩, fun h => .intro h.1 h.2⟩

theorem Throughout.mono {P P' : Query → Prop} (h : ∀ q, P q → P' q) {q : Query}
    (hq : q.Throughout P) : q.Throughout P' := by
  induction hq with
  | intro here _ ih => exact .intro (h _ here) ih

theorem throughout_and {P P' : Query → Prop} {q : Query} :
    q.Throughout (fun p => P p ∧ P' p) ↔ q.Throughout P ∧ q.Throughout P' := by
  constructor
  · exact fun h => ⟨h.mono fun _ => And.left, h.mono fun _ => And.right⟩
  · rintro ⟨h, h'⟩
    induction h with
    | intro here _ ih =>
      rw [throughout_iff] at h'
      exact .intro ⟨here, h'.1⟩ fun p hp => ih p hp (h'.2 p hp)

/-! ### How printed texts are read -/

/-- Is this access with brackets, or tries of it? Its printed text begins with a dot that is read as
a term of its own. -/
def isBracketed : Query → Bool
  | index none none _ | slice .. => true
  | attempt body none => body.isBracketed
  | _ => false

/-- The level at which the printed text of a query is read. -/
def level : Query → Nat
  | operation op _ _ => op.level
  | label .. | bind .. => 13
  | unary .. => 4
  | q => if q.isBracketed then 3 else 2

/-- Is this a query that is not read but as a pipe, though it is no operation? -/
def isBinder : Query → Bool
  | label .. | bind .. => true
  | _ => false

/-- Does the printed text of a query begin with a function name `label` where no pipe begins? -/
def leads : Query → Bool
  | call name _ => name = "label"
  | operation op (some l) _ => op ≠ .pipe && !l.needsParens op true && l.leads
  | _ => false

/-- May the printed text of a query end with a `try` that has no `catch`? -/
def endsOpen : Query → Bool
  | operation .. | unary .. | label .. | bind .. => true
  | attempt _ none => true
  | attempt _ (some handler) => !handler.isOpen && handler.endsOpen
  | _ => false

/-! ### Regular queries -/

/-- Can this stand as a pipe of its own? -/
def IsPipe (q : Query) : Prop :=
  q.leads = false

/-- Can this stand where a term of a level is meant, in parentheses if it is open? -/
def IsTerm (level : Nat) (q : Query) : Prop :=
  if q.isOpen then q.leads = false else q.level ≤ level

/-- Can this be a side of an operation? -/
structure IsSide (op : Operator) (isLeft : Bool) (q : Query) : Prop where
  binder : q.isBinder = true → op = .pipe ∧ isLeft = false
  leads : q.leads = true → q.needsParens op isLeft = false
  label : op = .pipe → q.leads = true → ∃ args, q = call "label" args

/-- What is asked of each part of a regular query. -/
def IsRegular : Query → Prop
  | operation op (some l) (some r) => op.precedence ≠ 0 ∧ IsSide op true l ∧ IsSide op false r
  | identity | recurse | null | bool _ | string _ => True
  | number text => Spelling.number? text = some text
  | format name _ => Spelling.format? name = some name
  | index (some name) none none => Spelling.name? name = some name
  | index none (some _) none => True
  | index none none e => ∀ p ∈ e, IsPipe p
  | slice start stop => (∀ p ∈ start, IsPipe p) ∧ ∀ p ∈ stop, IsPipe p
  | call name args =>
    Spelling.name? name = some name ∧ name ∉ barred ∧ (args = [] → ofName name = call name []) ∧
      ∀ p ∈ args, IsPipe p
  | array body => ∀ p ∈ body, IsPipe p
  | object entries => ∀ e ∈ entries, IsTerm 4 e.value ∧ ∀ p ∈ e.keyExpr, IsPipe p
  | unary op operand => op = "-" ∧ IsTerm 3 operand
  | cond test branch elifs otherwise =>
    IsPipe test ∧ IsPipe branch ∧ (∀ p ∈ elifs, IsPipe p.1 ∧ IsPipe p.2) ∧
      ∀ p ∈ otherwise, IsPipe p
  | attempt body none => if body.isBracketed then True else IsTerm 2 body
  | attempt body (some handler) =>
    IsTerm 2 body ∧ (body.isOpen = false → body.endsOpen = false) ∧ IsTerm 2 handler
  | reduce source name init update =>
    IsTerm 3 source ∧ name.isPlainName = true ∧ IsPipe init ∧ IsPipe update
  | foreach source name init update extract =>
    IsTerm 3 source ∧ name.isPlainName = true ∧ IsPipe init ∧ IsPipe update ∧
      ∀ p ∈ extract, IsPipe p
  | label name body => name.isPlainName = true ∧ IsPipe body
  | breakTo name | var name => name.isPlainName = true
  | bind source name body =>
    IsPipe source ∧ IsTerm 3 source ∧ name.isPlainName = true ∧ IsPipe body
  | group body => IsPipe body
  | _ => False

/-! ### Queries that have a source text -/

/-- Is this a part that the language has no text for? -/
def isUnknown : Query → Bool
  | operation (.other _) _ _ | «foreign» _ => true
  | _ => false

/-- The parts whose texts are in the text of a query. Access to a field by its name or by a key is
written without its expression. -/
def shownParts : Query → List Query
  | index (some _) _ _ | index none (some _) _ => []
  | q => q.parts

/-- The text of a query shows known parts only. -/
inductive IsPrintable : Query → Prop
  | intro {q : Query} (known : q.isUnknown = false) (shown : ∀ p ∈ q.shownParts, IsPrintable p) :
      IsPrintable q

theorem isPrintable_iff {q : Query} :
    q.IsPrintable ↔ q.isUnknown = false ∧ ∀ p ∈ q.shownParts, p.IsPrintable :=
  ⟨fun h => by cases h with | intro known shown => exact ⟨known, shown⟩, fun h => .intro h.1 h.2⟩

theorem orElse_eq_none_iff {a b : Option Unprintable} : (a <|> b) = none ↔ a = none ∧ b = none := by
  rw [Option.orElse_eq_orElse, Option.orElse_eq_or, Option.or_eq_none_iff]

theorem unprintableOption?_eq_none_iff {o : Option Query} :
    unprintableOption? o = none ↔ ∀ q ∈ o.toList, q.unprintable? = none := by
  cases o <;> simp [unprintableOption?]

theorem unprintableList?_eq_none_iff {qs : List Query} :
    unprintableList? qs = none ↔ ∀ q ∈ qs, q.unprintable? = none := by
  induction qs with
  | nil => simp [unprintableList?]
  | cons q qs ih => rw [unprintableList?, orElse_eq_none_iff, ih, List.forall_mem_cons]

theorem unprintableEntries?_eq_none_iff {es : List (Entry Query)} :
    unprintableEntries? es = none ↔ ∀ q ∈ es.flatMap entryParts, q.unprintable? = none := by
  induction es with
  | nil => simp [unprintableEntries?]
  | cons e es ih =>
    obtain ⟨key, value, keyExpr⟩ := e
    rw [unprintableEntries?, orElse_eq_none_iff, orElse_eq_none_iff, ih,
      unprintableOption?_eq_none_iff, List.flatMap_cons, List.forall_mem_append, entryParts,
      List.forall_mem_cons]
    exact and_left_comm.trans and_assoc.symm

theorem unprintablePairs?_eq_none_iff {ps : List (Query × Query)} :
    unprintablePairs? ps = none ↔
      ∀ q ∈ ps.flatMap fun p => [p.1, p.2], q.unprintable? = none := by
  induction ps with
  | nil => simp [unprintablePairs?]
  | cons p ps ih =>
    obtain ⟨test, branch⟩ := p
    rw [unprintablePairs?, orElse_eq_none_iff, orElse_eq_none_iff, ih, List.flatMap_cons,
      List.forall_mem_append]
    simp [and_assoc]

/-- A query has a source text if it is known itself and the parts that it shows have one. -/
theorem unprintable?_eq_none_iff_shown {q : Query} :
    q.unprintable? = none ↔
      q.isUnknown = false ∧ ∀ p ∈ q.shownParts, p.unprintable? = none := by
  cases q with
  | operation op l r =>
    cases op <;> simp [unprintable?, isUnknown, shownParts, parts, unprintableOption?_eq_none_iff,
      or_imp, forall_and]
  | index name key e =>
    cases name <;> cases key <;>
      simp [unprintable?, isUnknown, shownParts, unprintableOption?_eq_none_iff, parts]
  | foreach source name init update extract =>
    -- What is gone through is shown first, and looked at last.
    rw [unprintable?, orElse_eq_none_iff, orElse_eq_none_iff, orElse_eq_none_iff,
      unprintableOption?_eq_none_iff, ← and_assoc, ← and_assoc, and_comm]
    simp [isUnknown, shownParts, parts, or_imp, forall_and, and_assoc]
  | _ =>
    simp [unprintable?, isUnknown, shownParts, parts, unprintableOption?_eq_none_iff,
      unprintableList?_eq_none_iff, unprintableEntries?_eq_none_iff,
      unprintablePairs?_eq_none_iff, or_imp, forall_and, -List.mem_flatMap]

theorem sizeOf_lt_of_mem_entryParts {e : Entry Query} {p : Query} (h : p ∈ entryParts e) :
    sizeOf p < sizeOf e := by
  obtain ⟨key, value, keyExpr⟩ := e
  simp only [entryParts, List.mem_cons, Option.mem_toList] at h
  rcases h with rfl | rfl <;> simp <;> omega

theorem sizeOf_lt_of_mem_option {o : Option Query} {p : Query} (h : p ∈ o.toList) :
    sizeOf p < sizeOf o := by
  obtain rfl := Option.mem_toList.mp h
  simp

/-- The parts of a query are smaller than it. -/
theorem sizeOf_lt_of_mem_parts {p q : Query} (h : p ∈ q.parts) : sizeOf p < sizeOf q := by
  cases q with
  | call name args =>
    have := List.sizeOf_lt_of_mem (show p ∈ args from h)
    rw [call.sizeOf_spec]
    omega
  | object entries =>
    obtain ⟨e, he, hp⟩ := List.mem_flatMap.mp h
    have := sizeOf_lt_of_mem_entryParts hp
    have := List.sizeOf_lt_of_mem he
    rw [object.sizeOf_spec]
    omega
  | cond test branch elifs otherwise =>
    simp only [parts, List.cons_append, List.mem_cons, List.mem_append] at h
    rw [cond.sizeOf_spec]
    rcases h with rfl | rfl | h | h
    · omega
    · omega
    · obtain ⟨⟨test', branch'⟩, he, hp⟩ := List.mem_flatMap.mp h
      have := List.sizeOf_lt_of_mem he
      rw [Prod.mk.sizeOf_spec] at this
      rcases List.mem_cons.mp hp with rfl | hp
      · omega
      · obtain rfl := List.mem_singleton.mp hp
        omega
    · have := sizeOf_lt_of_mem_option h
      omega
  | operation op l r =>
    rw [operation.sizeOf_spec]
    rcases List.mem_append.mp h with h | h <;> have := sizeOf_lt_of_mem_option h <;> omega
  | slice start stop =>
    rw [slice.sizeOf_spec]
    rcases List.mem_append.mp h with h | h <;> have := sizeOf_lt_of_mem_option h <;> omega
  | index name key e =>
    have := sizeOf_lt_of_mem_option h
    rw [index.sizeOf_spec]
    omega
  | array body =>
    have := sizeOf_lt_of_mem_option h
    rw [array.sizeOf_spec]
    omega
  | attempt body handler =>
    rw [attempt.sizeOf_spec]
    rcases List.mem_cons.mp h with rfl | h
    · omega
    · have := sizeOf_lt_of_mem_option h
      omega
  | foreach source name init update extract =>
    simp only [parts, List.mem_cons] at h
    rw [foreach.sizeOf_spec]
    rcases h with rfl | rfl | rfl | h
    · omega
    · omega
    · omega
    · have := sizeOf_lt_of_mem_option h
      omega
  | _ =>
    simp only [parts, List.mem_cons, List.not_mem_nil, or_false] at h
    all_goals rcases h with rfl | rfl | rfl <;> simp <;> omega

theorem mem_parts_of_mem_shownParts {p q : Query} (h : p ∈ q.shownParts) : p ∈ q.parts := by
  cases q with
  | index name key e => cases name <;> cases key <;> simp_all [shownParts]
  | _ => exact h

/-- The queries that have a source text are those whose text shows known parts only. -/
theorem unprintable?_eq_none_iff {q : Query} : q.unprintable? = none ↔ q.IsPrintable := by
  rw [unprintable?_eq_none_iff_shown, isPrintable_iff]
  refine and_congr_right fun _ => forall₂_congr fun p hp => ?_
  have := sizeOf_lt_of_mem_parts (mem_parts_of_mem_shownParts hp)
  exact unprintable?_eq_none_iff
termination_by q

theorem isUnknown_of_regular {q : Query} (h : q.IsRegular) : q.isUnknown = false := by
  cases q with
  | operation op l r =>
    cases op with
    | other name =>
      cases l <;> cases r <;> first | exact absurd h id | exact absurd rfl h.1
    | _ => rfl
  | «foreign» kind => exact absurd h id
  | _ => rfl

theorem isPrintable_of_regular {q : Query} (h : q.Throughout IsRegular) : q.IsPrintable := by
  induction h with
  | intro here _ ih =>
    exact .intro (isUnknown_of_regular here) fun p hp => ih p (mem_parts_of_mem_shownParts hp)

/-- A regular query has a source text. -/
theorem format?_of_regular {q : Query} (h : q.Throughout IsRegular) : q.format? = .ok q.print := by
  rw [format?, unprintable?_eq_none_iff.mpr (isPrintable_of_regular h)]

/-- A source text is the printed text. -/
theorem print_of_format? {q : Query} {t : Text} (h : q.format? = .ok t) : q.print = t := by
  unfold format? at h
  split at h
  · exact absurd h (by simp)
  · exact Except.ok.inj h

/-! ### What can go wrong -/

/-- If this is access to a field, does the name of the field have but one part? -/
def hasPlainField : Query → Bool
  | index (some name) _ _ => name.isPlainName
  | _ => true

/-- Is this a call of a function `label`? -/
def callsLabel : Query → Bool
  | call name _ => name = "label"
  | _ => false

/-- If this is a pipe, is neither of its sides a call of a function `label`? -/
def pipesNoLabel : Query → Bool
  | operation .pipe l r => !l.any callsLabel && !r.any callsLabel
  | _ => true

/-- If this is an operation of an operator that groups to no side, is the left side none of the same
level? -/
def isGrouped : Query → Bool
  | operation op (some (operation op' _ _)) _ =>
    !(op.isLone && op'.precedence = op.precedence)
  | _ => true

/-- If this is a `try` without a `catch`, is its body no access with brackets? -/
def keepsAttempt : Query → Bool
  | attempt (index none none _) none | attempt (slice ..) none => false
  | _ => true

/-- Can the printed text of a part be read? -/
def isLegible (q : Query) : Bool :=
  q.hasPlainField && q.pipesNoLabel && q.isGrouped

end Query

end JqFlow
