import JqFlow.Proofs.Drawing.Elements

/-!
# The steps of a drawing

What single steps add to a drawing: numbers, edges and types.

## Main definitions

- `Builder.Drawn`: what a drawing adds to a builder
- `Builder.At`: where the cursor of a builder stands

## Main statements

- `Builder.drawMark_drawn`, `Builder.drawOpen_drawn`: an element is entered from the cursor
- `Builder.Drawn.close`: closing a container adds nothing

## Design notes

The builder drops an edge between ids that are connected already. It never does here, because one
end of every new edge is an id that was not given before: `Builder.Spent` says which ids were.
-/

namespace JqFlow

namespace Builder

/-- An id that is none of those with a number from `n` on. -/
def Spent (n : Nat) (id : Id) : Prop :=
  ∀ m, n ≤ m → id ≠ nodeId m

theorem Spent.mono {m n : Nat} {id : Id} (h : Spent m id) (hmn : m ≤ n) : Spent n id :=
  fun k hk => h k (Nat.le_trans hmn hk)

theorem spent_nodeId {m n : Nat} (h : m < n) : Spent n (nodeId m) := by
  intro k hk heq
  have := nodeId_injective heq
  omega

/-- The label of the next edge that leaves the cursor. -/
def pending (b : Builder) : Option Text :=
  if b.branching then none else (b.types.lookup b.cursor).map ValueType.name

/-- Nothing is known yet of the ids that are still to be given. -/
structure Fresh (b : Builder) : Prop where
  cursor : Spent b.counter b.cursor
  pair : ∀ p ∈ b.connected, Spent b.counter p.1 ∧ Spent b.counter p.2
  type : ∀ m, b.counter ≤ m → b.types.lookup (nodeId m) = none

/-- `after` has `count` more ids and the edges `wires` more than `before`. The types of earlier ids
are as before, and nothing is known of later ones. -/
structure Drawn (wires : List Edge) (count : Nat) (before after : Builder) : Prop where
  counter : after.counter = before.counter + count
  edges : after.edges = before.edges ++ wires
  connected : after.connected = (wires.map Edge.ends).reverse ++ before.connected
  types : ∀ id, Spent before.counter id → after.types.lookup id = before.types.lookup id
  fresh : Fresh after

theorem Drawn.refl {b : Builder} (hb : Fresh b) : Drawn [] 0 b b :=
  ⟨rfl, by simp, by simp, fun _ _ => rfl, hb⟩

theorem Drawn.trans {ws ws' : List Edge} {k k' : Nat} {a b c : Builder} (h : Drawn ws k a b)
    (h' : Drawn ws' k' b c) : Drawn (ws ++ ws') (k + k') a c := by
  refine ⟨by rw [h'.counter, h.counter, Nat.add_assoc], ?_, ?_, ?_, h'.fresh⟩
  · rw [h'.edges, h.edges, List.append_assoc]
  · rw [h'.connected, h.connected, List.map_append, List.reverse_append, List.append_assoc]
  · intro id hid
    have hid' : Spent b.counter id := hid.mono (by rw [h.counter]; omega)
    rw [h'.types id hid', h.types id hid]

/-- The cursor stands at an element with the given type, and a branch has just begun or not. -/
structure At (id : Id) (branching : Bool) (type : Option ValueType) (b : Builder) : Prop where
  cursor : b.cursor = id
  branching : b.branching = branching
  type : b.types.lookup id = type

theorem At.pending {id : Id} {branching : Bool} {type : Option ValueType} {b : Builder}
    (h : At id branching type b) :
    b.pending = if branching then none else type.map ValueType.name := by
  simp [Builder.pending, h.branching, h.cursor, h.type]

/-! ### The single steps -/

theorem connect_of_new {source target : Id} {b : Builder} (hne : source ≠ target)
    (hnew : (source, target) ∉ b.connected) :
    b.connect source target =
      { b with
        branching := false
        connected := (source, target) :: b.connected
        edges := b.edges ++ [⟨source, target,
          if b.branching then none else (b.types.lookup source).map ValueType.name⟩] } := by
  simp [connect, hne, hnew]

/-- A move along a new edge. -/
theorem moveTo_drawn {id : Id} {b : Builder} (hb : Fresh b) (hid : Spent b.counter id)
    (hne : b.cursor ≠ id) (hnew : (b.cursor, id) ∉ b.connected) :
    Drawn [⟨b.cursor, id, b.pending⟩] 0 b (b.moveTo id) ∧
      At id false (b.types.lookup id) (b.moveTo id) := by
  rw [moveTo, connect_of_new hne hnew]
  refine ⟨⟨rfl, rfl, rfl, fun _ _ => rfl, hid, ?_, hb.type⟩, rfl, rfl, rfl⟩
  intro p hp
  rcases List.mem_cons.mp hp with rfl | hp
  · exact ⟨hb.cursor, hid⟩
  · exact hb.pair p hp

theorem startBranch_fresh {seed : Id} {b : Builder} (hb : Fresh b) (hseed : Spent b.counter seed) :
    Fresh (b.startBranch seed) :=
  ⟨hseed, hb.pair, hb.type⟩

/-- What is drawn in a branch is drawn where the branch began. -/
theorem Drawn.of_branch {ws : List Edge} {k : Nat} {seed : Id} {a b : Builder}
    (h : Drawn ws k (a.startBranch seed) b) : Drawn ws k a b :=
  ⟨h.counter, h.edges, h.connected, h.types, h.fresh⟩

/-- The next number is taken, for an element with the given type. -/
def takeNumber (type : Option ValueType) (b : Builder) : Builder :=
  { b with counter := b.counter + 1 }.noteType (nodeId b.counter) type

theorem takeNumber_lookup (type : Option ValueType) (b : Builder) (id : Id)
    (h : id ≠ nodeId b.counter) : (b.takeNumber type).types.lookup id = b.types.lookup id := by
  cases type with
  | none => rfl
  | some type =>
    have hbeq : (id == nodeId b.counter) = false := beq_false_of_ne h
    simp [takeNumber, noteType, List.lookup_cons, hbeq]

theorem takeNumber_lookup_self {b : Builder} (hb : Fresh b) (type : Option ValueType) :
    (b.takeNumber type).types.lookup (nodeId b.counter) = type := by
  cases type with
  | none => exact hb.type b.counter (Nat.le_refl _)
  | some type => simp [takeNumber, noteType]

theorem takeNumber_frame (type : Option ValueType) (b : Builder) :
    (b.takeNumber type).counter = b.counter + 1 ∧ (b.takeNumber type).cursor = b.cursor ∧
      (b.takeNumber type).edges = b.edges ∧ (b.takeNumber type).connected = b.connected ∧
      (b.takeNumber type).branching = b.branching := by
  cases type <;> exact ⟨rfl, rfl, rfl, rfl, rfl⟩

theorem takeNumber_drawn {b : Builder} (hb : Fresh b) (type : Option ValueType) :
    Drawn [] 1 b (b.takeNumber type) := by
  obtain ⟨hcounter, hcursor, hedges, hconnected, -⟩ := takeNumber_frame type b
  refine ⟨hcounter, by simp [hedges], by simp [hconnected], ?_, ?_, ?_, ?_⟩
  · intro id hid
    exact takeNumber_lookup type b id (hid _ (Nat.le_refl _))
  · rw [hcounter, hcursor]
    exact hb.cursor.mono (by omega)
  · intro p hp
    rw [hconnected] at hp
    rw [hcounter]
    exact ⟨(hb.pair p hp).1.mono (by omega), (hb.pair p hp).2.mono (by omega)⟩
  · intro m hm
    rw [hcounter] at hm
    have hne : nodeId m ≠ nodeId b.counter := fun h => by
      have := nodeId_injective h
      omega
    rw [takeNumber_lookup type b _ hne]
    exact hb.type m (by omega)

theorem takeNumber_pending {b : Builder} (hb : Fresh b) (type : Option ValueType) :
    (b.takeNumber type).pending = b.pending := by
  obtain ⟨-, hcursor, -, -, hbranching⟩ := takeNumber_frame type b
  rw [pending, pending, hbranching, hcursor,
    takeNumber_lookup type b _ (hb.cursor _ (Nat.le_refl _))]

/-- The next element is entered from the cursor. -/
theorem enter_drawn {b : Builder} (hb : Fresh b) (type : Option ValueType) :
    Drawn [⟨b.cursor, nodeId b.counter, b.pending⟩] 1 b
        ((b.takeNumber type).moveTo (nodeId b.counter)) ∧
      At (nodeId b.counter) false type ((b.takeNumber type).moveTo (nodeId b.counter)) := by
  have htake := takeNumber_drawn hb type
  obtain ⟨hcounter, hcursor, -, hconnected, -⟩ := takeNumber_frame type b
  have hid : Spent (b.takeNumber type).counter (nodeId b.counter) :=
    spent_nodeId (by rw [hcounter]; omega)
  have hne : (b.takeNumber type).cursor ≠ nodeId b.counter := by
    rw [hcursor]
    exact hb.cursor _ (Nat.le_refl _)
  have hnew : ((b.takeNumber type).cursor, nodeId b.counter) ∉ (b.takeNumber type).connected := by
    rw [hconnected]
    intro h
    exact (hb.pair _ h).2 _ (Nat.le_refl _) rfl
  obtain ⟨hmove, hat⟩ := moveTo_drawn htake.fresh hid hne hnew
  rw [hcursor, takeNumber_pending hb] at hmove
  rw [takeNumber_lookup_self hb] at hat
  exact ⟨htake.trans hmove, hat⟩

/-- Scopes play no part in what the edges of a drawing are. -/
theorem Drawn.with_scopes {ws : List Edge} {k : Nat} {a b : Builder} (h : Drawn ws k a b)
    (scopes : List Scope) : Drawn ws k a { b with scopes := scopes } :=
  ⟨h.counter, h.edges, h.connected, h.types, h.fresh.cursor, h.fresh.pair, h.fresh.type⟩

theorem At.with_scopes {id : Id} {branching : Bool} {type : Option ValueType} {b : Builder}
    (h : At id branching type b) (scopes : List Scope) :
    At id branching type { b with scopes := scopes } :=
  ⟨h.cursor, h.branching, h.type⟩

/-- Filing an element changes scopes only. -/
theorem file_eq (e : Element) (b : Builder) :
    b.file e = { b with scopes := (b.file e).scopes } := by
  simp only [file]
  split <;> rfl

/-- Connecting does not look at scopes. -/
theorem connect_with_scopes (source target : Id) (b : Builder) (scopes : List Scope) :
    connect source target { b with scopes := scopes } =
      { b.connect source target with scopes := scopes } := by
  simp only [connect]
  split <;> rfl

theorem drawMark_eq (label : Text) (type : Option ValueType) (b : Builder) :
    ∃ scopes, b.drawMark label type =
      { (b.takeNumber type).moveTo (nodeId b.counter) with scopes := scopes } := by
  refine ⟨((b.takeNumber type).file (.node (nodeId b.counter) label .rectangle none)).scopes, ?_⟩
  show moveTo _ ((b.takeNumber type).file _) = _
  rw [file_eq]
  simp only [moveTo, connect_with_scopes]

theorem drawMark_drawn {b : Builder} (hb : Fresh b) (label : Text) (type : Option ValueType) :
    Drawn [⟨b.cursor, nodeId b.counter, b.pending⟩] 1 b (b.drawMark label type) ∧
      At (nodeId b.counter) false type (b.drawMark label type) := by
  obtain ⟨scopes, h⟩ := drawMark_eq label type b
  obtain ⟨hdrawn, hat⟩ := enter_drawn hb type
  rw [h]
  exact ⟨hdrawn.with_scopes scopes, hat.with_scopes scopes⟩

theorem drawOpen_drawn {b : Builder} (hb : Fresh b) (label : Text) (detail : Option Text)
    (type : Option ValueType) :
    Drawn [⟨b.cursor, nodeId b.counter, b.pending⟩] 1 b (b.drawOpen label detail type) ∧
      At (nodeId b.counter) false type (b.drawOpen label detail type) := by
  obtain ⟨hdrawn, hat⟩ := enter_drawn hb type
  exact ⟨hdrawn.with_scopes _, hat.with_scopes _⟩

/-- Closing a container puts the cursor at it and changes scopes besides. -/
theorem close_eq {b : Builder} {c : Opened} {inside : List Element} {outer : List Scope}
    (h : b.scopes = ⟨some c, inside⟩ :: outer) :
    ∃ scopes, b.close = { b with cursor := c.id, scopes := scopes } := by
  refine ⟨(({ b with scopes := outer } : Builder).file
    (.container c.id c.label inside c.detail)).scopes, ?_⟩
  simp only [close, h]
  rw [file_eq]

/-- A container whose branches have been drawn is closed. -/
theorem Drawn.close {ws : List Edge} {k : Nat} {a b : Builder} {c : Opened}
    {inside : List Element} {outer : List Scope} (h : Drawn ws k a b)
    (hscopes : b.scopes = ⟨some c, inside⟩ :: outer) (hid : Spent b.counter c.id) :
    Drawn ws k a b.close := by
  obtain ⟨scopes, hclose⟩ := close_eq hscopes
  rw [hclose]
  exact ⟨h.counter, h.edges, h.connected, h.types, hid, h.fresh.pair, h.fresh.type⟩

theorem close_at {b : Builder} {c : Opened} {inside : List Element} {outer : List Scope}
    (hscopes : b.scopes = ⟨some c, inside⟩ :: outer) :
    At c.id b.branching (b.types.lookup c.id) b.close := by
  obtain ⟨scopes, hclose⟩ := close_eq hscopes
  rw [hclose]
  exact ⟨rfl, rfl, rfl⟩

end Builder

end JqFlow
