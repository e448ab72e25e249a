import JqFlow.Proofs.Number.Range
import JqFlow.Settings

/-!
# The fields of settings

What a settings file gives depends only on the table of the tool: every field of the settings has the
value of its key, or its default if the key is not there, and a key with a value that it cannot have
is an error in the settings. Besides, a document can ask for more than its reader can do: a tool that
is looked for in a value that is no table, and integers that are too large.

## Main definitions

- `SettingsKey.Admits`: the values that a key can have
- `Settings.IsSection`: the table of the tool in a document
- `Settings.IsReadFrom`: the settings that a table of keys describes

## Main statements

- `Settings.outcome_ofFields`: what a table of keys gives
- `Settings.ofBytes_verdict`: what a file with a well-formed document gives
-/

namespace JqFlow

/-- The values that a key can have. A NaN is a time that is not at most zero. -/
def SettingsKey.Admits : SettingsKey → Toml.Value → Prop
  | renderer, .text t | title, .text t => t ≠ []
  | layout, .text _ | expandGroups, .bool _ => True
  | timeout, .whole n => 0 < n
  | timeout, .real x => x = .nan ∨ x.IsPositive
  | _, _ => False

namespace Settings

/-- A key is not there, or has a value that it can have. -/
def IsAdmitted (fields : Toml.Table) (key : SettingsKey) : Prop :=
  ∀ v, fields.get? key.name = some v → key.Admits v

/-- A field of the settings is what the value of its key says, or the default without the key. -/
def Says {α : Type} (fields : Toml.Table) (key : SettingsKey) (default : α)
    (reads : Toml.Value → α → Prop) (a : α) : Prop :=
  match fields.get? key.name with
  | none => a = default
  | some v => reads v a

/-- The settings that a table of keys describes. An empty layout is none, and a time in whole seconds
is rounded to the nearest number of the format. -/
structure IsReadFrom (root : Location) (fields : Toml.Table) (s : Settings) : Prop where
  renderer : Says fields .renderer ({} : Settings).renderer (fun v t => v = .text t) s.renderer
  layout : Says fields .layout ({} : Settings).layout
    (fun v t? => v = .text (t?.getD []) ∧ t? ≠ some []) s.layout
  title : Says fields .title ({} : Settings).title (fun v t => v = .text t) s.title
  timeout : Says fields .timeout none
    (fun v limit => ∃ x, limit = some (.real x) ∧ (v = .real x ∨ ∃ n, v = .whole n ∧ x = .ofInt n))
    s.timeout
  expandGroups : Says fields .expandGroups ({} : Settings).expandGroups (fun v b => v = .bool b)
    s.expandGroups
  projectRoot : s.projectRoot = some root

/-- The time limit is a whole number that is too large for the format. -/
def IsTooLarge (fields : Toml.Table) : Prop :=
  ∃ n, fields.get? SettingsKey.timeout.name = some (.whole n) ∧ (Binary64.rangeEnd : Int) ≤ n

/-- The table of the tool in a document. What is not there is empty. -/
def IsSection (doc fields : Toml.Table) : Prop :=
  (doc.get? "tool" = none ∧ fields = []) ∨
    ∃ tools : Toml.Table, doc.get? "tool" = some (.table tools) ∧
      ((tools.get? "jqviz" = none ∧ fields = []) ∨ tools.get? "jqviz" = some (.table fields))

variable {fields : Toml.Table} {key : SettingsKey} {root : Location}

/-! ### One key -/

/-- A reader of a key: it says what the key says if the key is admitted, and fails with it else. -/
def Reads {α : Type} (fields : Toml.Table) (key : SettingsKey) (r : Except SettingsError α)
    (P : α → Prop) : Prop :=
  (IsAdmitted fields key ∧ ∃ a, r = .ok a ∧ P a) ∨
    (¬ IsAdmitted fields key ∧ r = .error (.invalid key))

theorem isAdmitted_of_get?_eq_none (h : fields.get? key.name = none) : IsAdmitted fields key := by
  intro v hv
  rw [h] at hv
  cases hv

theorem isAdmitted_iff {v : Toml.Value} (h : fields.get? key.name = some v) :
    IsAdmitted fields key ↔ key.Admits v := by
  simp [IsAdmitted, h]

/-- What a field says is kept by a function of it that keeps the default. -/
theorem Says.map {α β : Type} {default a : α} {default' : β} {reads : Toml.Value → α → Prop}
    {reads' : Toml.Value → β → Prop} {f : α → β} (h : Says fields key default reads a)
    (hdefault : f default = default') (hreads : ∀ v, reads v a → reads' v (f a)) :
    Says fields key default' reads' (f a) := by
  rw [Says] at h ⊢
  cases hv : fields.get? key.name with
  | none =>
    simp only [hv] at h ⊢
    rw [h, hdefault]
  | some v =>
    simp only [hv] at h ⊢
    exact hreads v h

/-- The text of a key, which may be empty or not. -/
theorem textOf?_reads (fields : Toml.Table) {canBeEmpty : Bool}
    (hkey : ∀ v, key.Admits v ↔ ∃ t, v = .text t ∧ (t = [] → canBeEmpty = true)) :
    Reads fields key (textOf? fields key canBeEmpty)
      (Says fields key none fun v t? => ∃ t, v = .text t ∧ t? = some t) := by
  rw [Reads, textOf?]
  simp only [Says]
  cases hv : fields.get? key.name with
  | none => exact .inl ⟨isAdmitted_of_get?_eq_none hv, none, rfl, rfl⟩
  | some v =>
    rw [isAdmitted_iff hv, hkey]
    cases v with
    | text t =>
      by_cases hempty : t = [] ∧ canBeEmpty = false
      · exact .inr ⟨by simp [hempty], by simp [hempty]⟩
      · have hok : t = [] → canBeEmpty = true := fun ht => by simpa [ht] using hempty
        exact .inl ⟨⟨t, rfl, hok⟩, some t, by simpa using hok, t, rfl, rfl⟩
    | _ => exact .inr ⟨by simp, rfl⟩

/-- A text that is a field as it is, or the default. -/
theorem textOf?_reads_nonempty (default : Text)
    (hkey : ∀ v, key.Admits v ↔ ∃ t, v = .text t ∧ t ≠ []) :
    Reads fields key (textOf? fields key false) fun t? =>
      Says fields key default (fun v t => v = .text t) (t?.getD default) := by
  have hkey' (v : Toml.Value) : key.Admits v ↔ ∃ t, v = .text t ∧ (t = [] → false = true) := by
    simpa using hkey v
  rcases textOf?_reads fields hkey' with ⟨hadmitted, t?, hok, hsays⟩ | hfails
  · refine .inl ⟨hadmitted, t?, hok, hsays.map (f := (·.getD default)) rfl ?_⟩
    rintro v ⟨t, hv, rfl⟩
    exact hv
  · exact .inr hfails

theorem layoutOf_reads :
    Reads fields .layout (layoutOf fields)
      (Says fields .layout ({} : Settings).layout fun v t? =>
        v = .text (t?.getD []) ∧ t? ≠ some []) := by
  have hkey (v : Toml.Value) : SettingsKey.layout.Admits v ↔
      ∃ t, v = .text t ∧ (t = [] → true = true) := by
    cases v <;> simp [SettingsKey.Admits]
  rcases textOf?_reads fields hkey with ⟨hadmitted, t?, hok, hsays⟩ | ⟨hnot, herror⟩
  · refine .inl ⟨hadmitted, _, by rw [layoutOf, hok]; rfl, hsays.map rfl ?_⟩
    rintro v ⟨t, rfl, rfl⟩
    by_cases ht : t = []
    · simp [ht]
    · simp [ht]
  · exact .inr ⟨hnot, by rw [layoutOf, herror]; rfl⟩

theorem expandGroupsOf_reads :
    Reads fields .expandGroups (expandGroupsOf fields)
      (Says fields .expandGroups ({} : Settings).expandGroups fun v b => v = .bool b) := by
  rw [Reads, expandGroupsOf]
  simp only [Says]
  cases hv : fields.get? SettingsKey.expandGroups.name with
  | none => exact .inl ⟨isAdmitted_of_get?_eq_none hv, _, rfl, rfl⟩
  | some v =>
    rw [isAdmitted_iff hv]
    cases v with
    | bool b => exact .inl ⟨trivial, b, rfl, rfl⟩
    | _ => exact .inr ⟨id, rfl⟩

theorem not_isTooLarge (h : ∀ n, fields.get? SettingsKey.timeout.name ≠ some (.whole n)) :
    ¬ IsTooLarge fields :=
  fun ⟨n, hn, _⟩ => h n hn

/-- The time limit. It fails in one more way than the other fields: a whole number can be too large. -/
theorem timeoutOf?_cases (fields : Toml.Table) :
    (IsAdmitted fields .timeout ∧ ¬ IsTooLarge fields ∧ ∃ limit, timeoutOf? fields = .ok limit ∧
      Says fields .timeout none (fun v limit =>
        ∃ x, limit = some (.real x) ∧ (v = .real x ∨ ∃ n, v = .whole n ∧ x = .ofInt n)) limit) ∨
    (IsAdmitted fields .timeout ∧ IsTooLarge fields ∧
      timeoutOf? fields = .error .timeoutTooLarge) ∨
    (¬ IsAdmitted fields .timeout ∧ timeoutOf? fields = .error (.invalid .timeout)) := by
  rw [timeoutOf?]
  simp only [Says]
  cases hv : fields.get? SettingsKey.timeout.name with
  | none =>
    have hfits : ¬ IsTooLarge fields := not_isTooLarge fun n => by simp [hv]
    exact .inl ⟨isAdmitted_of_get?_eq_none hv, hfits, none, rfl, rfl⟩
  | some v =>
    rw [isAdmitted_iff hv]
    cases v with
    | whole n =>
      by_cases hn : 0 < n
      · have hinfinite := Binary64.ofInt_infinite_iff hn
        simp only [if_neg (not_le.mpr hn)]
        cases hx : Binary64.ofInt n with
        | infinite negative =>
          -- Infinity is not kept as a limit, so this is no value of the field.
          exact .inr (.inl ⟨hn, ⟨n, hv, hinfinite.mp ⟨negative, hx⟩⟩, rfl⟩)
        | _ =>
          refine .inl ⟨hn, ?_, _, rfl, _, rfl, .inr ⟨n, rfl, hx.symm⟩⟩
          rintro ⟨m, hm, hlarge⟩
          obtain rfl : n = m := by simpa using hv.symm.trans hm
          simpa [hx] using hinfinite.mpr hlarge
      · exact .inr (.inr ⟨hn, if_pos (not_lt.mp hn)⟩)
    | real x =>
      have hadmits : SettingsKey.timeout.Admits (.real x) ↔ x.le .zero = false :=
        Binary64.le_zero_eq_false_iff.symm
      have hfits : ¬ IsTooLarge fields := not_isTooLarge fun n => by simp [hv]
      rw [hadmits]
      by_cases hx : x.le .zero = true
      · exact .inr (.inr ⟨by simp [hx], if_pos hx⟩)
      · exact .inl ⟨by simpa using hx, hfits, _, if_neg hx, x, rfl, .inl rfl⟩
    | _ => exact .inr (.inr ⟨id, rfl⟩)

/-! ### All keys -/

/-- What a table of keys gives: an error that names a key that is not admitted, or the error that
whole seconds are too many, or the settings that the table describes. -/
inductive Outcome (root : Location) (fields : Toml.Table) : Except SettingsError Settings → Prop
  | invalid {key : SettingsKey} (h : ¬ IsAdmitted fields key) :
      Outcome root fields (.error (.invalid key))
  | tooLarge (h : ∀ key, IsAdmitted fields key) (hlarge : IsTooLarge fields) :
      Outcome root fields (.error .timeoutTooLarge)
  | ok {s : Settings} (h : ∀ key, IsAdmitted fields key) (hlarge : ¬ IsTooLarge fields)
      (hs : IsReadFrom root fields s) : Outcome root fields (.ok s)

/-- One key more is read. -/
theorem Reads.outcome_bind {α : Type} {r : Except SettingsError α} {P : α → Prop}
    {f : α → Except SettingsError Settings} (h : Reads fields key r P)
    (hf : ∀ a, IsAdmitted fields key → P a → Outcome root fields (f a)) :
    Outcome root fields (r >>= f) := by
  rcases h with ⟨hadmitted, a, rfl, ha⟩ | ⟨hnot, rfl⟩
  · exact hf a hadmitted ha
  · exact .invalid hnot

theorem outcome_ofFields (root : Location) (fields : Toml.Table) :
    Outcome root fields (ofFields root fields) := by
  have hrenderer (v : Toml.Value) : SettingsKey.renderer.Admits v ↔ ∃ t, v = .text t ∧ t ≠ [] := by
    cases v <;> simp [SettingsKey.Admits]
  have htitle (v : Toml.Value) : SettingsKey.title.Admits v ↔ ∃ t, v = .text t ∧ t ≠ [] := by
    cases v <;> simp [SettingsKey.Admits]
  -- The keys in the order in which they are read: an error is about the first that is not admitted.
  refine layoutOf_reads.outcome_bind fun layout hlayout slayout => ?_
  refine expandGroupsOf_reads.outcome_bind fun expand hexpand sexpand => ?_
  refine (textOf?_reads_nonempty ({} : Settings).renderer hrenderer).outcome_bind
    fun renderer hrenderer srenderer => ?_
  refine (textOf?_reads_nonempty ({} : Settings).title htitle).outcome_bind
    fun title htitle stitle => ?_
  have hall (htimeout : IsAdmitted fields .timeout) (key : SettingsKey) : IsAdmitted fields key := by
    cases key <;> assumption
  rcases timeoutOf?_cases fields with ⟨htimeout, hfits, limit, hok, stimeout⟩ |
    ⟨htimeout, hlarge, herror⟩ | ⟨hnot, herror⟩
  · rw [hok]
    exact .ok (hall htimeout) hfits ⟨srenderer, slayout, stitle, stimeout, sexpand, rfl⟩
  · rw [herror]
    exact .tooLarge (hall htimeout) hlarge
  · rw [herror]
    exact .invalid hnot

/-- A field says one thing. -/
theorem Says.unique {α : Type} {default a b : α} {reads : Toml.Value → α → Prop}
    (ha : Says fields key default reads a) (hb : Says fields key default reads b)
    (hreads : ∀ v, reads v a → reads v b → a = b) : a = b := by
  rw [Says] at ha hb
  cases hv : fields.get? key.name with
  | none =>
    simp only [hv] at ha hb
    rw [ha, hb]
  | some v =>
    simp only [hv] at ha hb
    exact hreads v ha hb

/-- A table of keys describes at most one settings. -/
theorem IsReadFrom.unique {s s' : Settings} (h : IsReadFrom root fields s)
    (h' : IsReadFrom root fields s') : s = s' := by
  have hrenderer : s.renderer = s'.renderer := h.renderer.unique h'.renderer fun v hv hv' => by
    simpa [hv] using hv'
  have htitle : s.title = s'.title := h.title.unique h'.title fun v hv hv' => by
    simpa [hv] using hv'
  have hexpand : s.expandGroups = s'.expandGroups :=
    h.expandGroups.unique h'.expandGroups fun v hv hv' => by simpa [hv] using hv'
  have hlayout : s.layout = s'.layout := h.layout.unique h'.layout fun v hv hv' => by
    obtain ⟨rfl, hne⟩ := hv
    obtain ⟨heq, hne'⟩ := hv'
    cases hs : s.layout <;> cases hs' : s'.layout <;> simp_all
  have htimeout : s.timeout = s'.timeout := h.timeout.unique h'.timeout fun v hv hv' => by
    obtain ⟨x, hx, hread⟩ := hv
    obtain ⟨y, hy, hread'⟩ := hv'
    rw [hx, hy]
    rcases hread with rfl | ⟨n, rfl, rfl⟩
    · simpa using hread'
    · have : y = .ofInt n := by simpa using hread'
      rw [this]
  have hroot : s.projectRoot = s'.projectRoot := h.projectRoot.trans h'.projectRoot.symm
  cases s
  cases s'
  simp_all

/-! ### Documents -/

variable {doc : Toml.Table}

/-- The table of all tools is a value of another kind. -/
def ToolsIsNoTable (doc : Toml.Table) : Prop :=
  ∃ v, doc.get? "tool" = some v ∧ ∀ tools, v ≠ .table tools

/-- The table of the tool is a value of another kind. -/
def SectionIsNoTable (doc : Toml.Table) : Prop :=
  ∃ tools : Toml.Table, doc.get? "tool" = some (.table tools) ∧
    ∃ v, tools.get? "jqviz" = some v ∧ ∀ fields, v ≠ .table fields

/-- The table of the tool, if it and the one around it are tables. -/
theorem fieldsOf_eq_ok_iff : fieldsOf doc = .ok fields ↔ IsSection doc fields := by
  rw [fieldsOf, IsSection]
  cases doc.get? "tool" with
  | none => simp [eq_comm]
  | some v =>
    cases v with
    | table tools =>
      simp only [reduceCtorEq, false_and, Option.some.injEq, Toml.Value.table.injEq,
        exists_eq_left', false_or]
      cases Toml.Table.get? tools "jqviz" with
      | none => simp [eq_comm]
      | some v => cases v <;> simp [eq_comm]
    | _ => simp

/-- Why a document has no table of the tool. -/
theorem fieldsOf_eq_error_iff {e : SettingsError} :
    fieldsOf doc = .error e ↔ (SectionIsNoTable doc ∧ e = .noTable) ∨
      ∃ v, doc.get? "tool" = some v ∧ (∀ tools, v ≠ .table tools) ∧ e = .toolsNoTable v.kindName := by
  rw [fieldsOf, SectionIsNoTable]
  cases doc.get? "tool" with
  | none => simp
  | some v =>
    cases v with
    | table tools =>
      simp only [Option.some.injEq, Toml.Value.table.injEq, exists_eq_left', ne_eq]
      cases Toml.Table.get? tools "jqviz" with
      | none => simp
      | some v => cases v <;> simp [eq_comm]
    | _ => simp [eq_comm]

theorem ofTable_of_fieldsOf (h : fieldsOf doc = .ok fields) :
    ofTable root doc = ofFields root fields := by
  rw [ofTable, h]
  rfl

theorem ofTable_of_error {e : SettingsError} (h : fieldsOf doc = .error e) :
    ofTable root doc = .error e := by
  rw [ofTable, h]
  rfl

/-- What an error is about. One that names a key is about a value of this key. -/
theorem ofTable_eq_error {e : SettingsError} (h : ofTable root doc = .error e) :
    (e = .noTable ∧ SectionIsNoTable doc) ∨
    (∃ v, e = .toolsNoTable v.kindName ∧ doc.get? "tool" = some v ∧ ∀ tools, v ≠ .table tools) ∨
    (∃ fields key v, e = .invalid key ∧ IsSection doc fields ∧
      fields.get? (SettingsKey.name key) = some v ∧ ¬ key.Admits v) ∨
    (∃ fields, e = .timeoutTooLarge ∧ IsSection doc fields ∧ (∀ key, IsAdmitted fields key) ∧
      IsTooLarge fields) := by
  cases hf : fieldsOf doc with
  | error e' =>
    obtain rfl : e' = e := by simpa [ofTable_of_error hf] using h
    rcases fieldsOf_eq_error_iff.mp hf with ⟨hsection, he⟩ | ⟨v, hv, hother, he⟩
    · exact .inl ⟨he, hsection⟩
    · exact .inr (.inl ⟨v, he, hv, hother⟩)
  | ok fields =>
    have hsection := fieldsOf_eq_ok_iff.mp hf
    have houtcome := outcome_ofFields root fields
    rw [← ofTable_of_fieldsOf hf, h] at houtcome
    cases houtcome with
    | @invalid key hnot =>
      obtain ⟨v, hv, hrefused⟩ : ∃ v, fields.get? key.name = some v ∧ ¬ key.Admits v := by
        simpa [IsAdmitted] using hnot
      exact .inr (.inr (.inl ⟨fields, key, v, rfl, hsection, hv, hrefused⟩))
    | tooLarge hall hlarge => exact .inr (.inr (.inr ⟨fields, rfl, hsection, hall, hlarge⟩))

/-- The settings are at fault: the table of the tool is none, or a key in it is not admitted. -/
def IsAtFault (doc : Toml.Table) : Prop :=
  SectionIsNoTable doc ∨ ∃ fields, IsSection doc fields ∧
    ∃ key v, fields.get? (SettingsKey.name key) = some v ∧ ¬ key.Admits v

/-- More is asked for than the reader can do: the tool would be looked for in a value that is no table,
or the time limit, which would be admitted, is too large. -/
def IsBeyondReader (doc : Toml.Table) : Prop :=
  ToolsIsNoTable doc ∨ ∃ fields, IsSection doc fields ∧ (∀ key, IsAdmitted fields key) ∧
    IsTooLarge fields

/-- An error in the settings is reported exactly if they are at fault. -/
theorem ofTable_reported_iff :
    (∃ e, ofTable root doc = .error e ∧ e.isReported = true) ↔ IsAtFault doc := by
  constructor
  · rintro ⟨e, herror, hreported⟩
    rcases ofTable_eq_error herror with ⟨-, hsection⟩ | ⟨v, rfl, -⟩ |
      ⟨fields, key, v, -, hsection, hv, hrefused⟩ | ⟨fields, rfl, -⟩
    · exact .inl hsection
    · exact absurd hreported (by simp [SettingsError.isReported])
    · exact .inr ⟨fields, hsection, key, v, hv, hrefused⟩
    · exact absurd hreported (by simp [SettingsError.isReported])
  · rintro (hsection | ⟨fields, hsection, key, v, hv, hrefused⟩)
    · exact ⟨.noTable, ofTable_of_error (fieldsOf_eq_error_iff.mpr (.inl ⟨hsection, rfl⟩)), rfl⟩
    · rw [ofTable_of_fieldsOf (fieldsOf_eq_ok_iff.mpr hsection)]
      have houtcome := outcome_ofFields root fields
      generalize ofFields root fields = result at houtcome ⊢
      cases houtcome with
      | invalid => exact ⟨_, rfl, rfl⟩
      | tooLarge hall => exact absurd (hall key v hv) hrefused
      | ok hall => exact absurd (hall key v hv) hrefused

/-- Another error comes out exactly if more is asked for than the reader can do. -/
theorem ofTable_unreported_iff :
    (∃ e, ofTable root doc = .error e ∧ e.isReported = false) ↔ IsBeyondReader doc := by
  constructor
  · rintro ⟨e, herror, hreported⟩
    rcases ofTable_eq_error herror with ⟨rfl, -⟩ | ⟨v, -, htools⟩ | ⟨fields, key, v, rfl, -⟩ |
      ⟨fields, -, hlarge⟩
    · exact absurd hreported (by simp [SettingsError.isReported])
    · exact .inl ⟨v, htools⟩
    · exact absurd hreported (by simp [SettingsError.isReported])
    · exact .inr ⟨fields, hlarge⟩
  · rintro (⟨v, hv, hother⟩ | ⟨fields, hsection, hall, hlarge⟩)
    · exact ⟨_, ofTable_of_error (fieldsOf_eq_error_iff.mpr (.inr ⟨v, hv, hother, rfl⟩)), rfl⟩
    · rw [ofTable_of_fieldsOf (fieldsOf_eq_ok_iff.mpr hsection)]
      have houtcome := outcome_ofFields root fields
      generalize ofFields root fields = result at houtcome ⊢
      cases houtcome with
      | invalid hnot => exact absurd (hall _) hnot
      | tooLarge => exact ⟨_, rfl, rfl⟩
      | ok _ hfits => exact absurd hlarge hfits

/-- The settings of a document are those that the table of the tool describes. -/
theorem ofTable_eq_ok_iff {s : Settings} :
    ofTable root doc = .ok s ↔ ∃ fields, IsSection doc fields ∧ (∀ key, IsAdmitted fields key) ∧
      ¬ IsTooLarge fields ∧ IsReadFrom root fields s := by
  constructor
  · intro hok
    cases hf : fieldsOf doc with
    | error e => exact absurd hok (by simp [ofTable_of_error hf])
    | ok fields =>
      have houtcome := outcome_ofFields root fields
      rw [← ofTable_of_fieldsOf hf, hok] at houtcome
      cases houtcome with
      | ok hall hfits hs => exact ⟨fields, fieldsOf_eq_ok_iff.mp hf, hall, hfits, hs⟩
  · rintro ⟨fields, hsection, hall, hfits, hs⟩
    rw [ofTable_of_fieldsOf (fieldsOf_eq_ok_iff.mpr hsection)]
    have houtcome := outcome_ofFields root fields
    generalize ofFields root fields = result at houtcome ⊢
    cases houtcome with
    | invalid hnot => exact absurd (hall _) hnot
    | tooLarge _ hlarge => exact absurd hlarge hfits
    | ok _ _ hs' => rw [hs.unique hs']

/-! ### Files -/

/-- A file with a well-formed document gives a reported error exactly if the settings in it are at
fault, another error exactly if more is asked for than its reader can do, which it may be by the number
of an integer's digits already, and else the settings that the table of the tool describes, whatever
else the document says. -/
theorem ofBytes_verdict (file : Location) {content : Bytes} {text : Text}
    (hdecode : Utf8.decode content = .ok text) (hvalid : Toml.parse text ≠ .error .malformed) :
    ((∃ e, ofBytes file content = .error e ∧ e.isReported = true) ↔
      ∃ doc, Toml.parse text = .ok doc ∧ IsAtFault doc) ∧
    ((∃ e, ofBytes file content = .error e ∧ e.isReported = false) ↔
      (∃ count, Toml.parse text = .error (.tooManyDigits count)) ∨
        ∃ doc, Toml.parse text = .ok doc ∧ IsBeyondReader doc) ∧
    ∀ s, ofBytes file content = .ok s ↔
      ∃ doc fields, Toml.parse text = .ok doc ∧ IsSection doc fields ∧
        (∀ key, IsAdmitted fields key) ∧ ¬ IsTooLarge fields ∧
        IsReadFrom file.dropLast fields s := by
  cases hparse : Toml.parse text with
  | error fault =>
    cases fault with
    | malformed => exact absurd hparse hvalid
    | tooManyDigits count =>
      have herror : ofBytes file content = .error (.tooManyDigits count) := by
        simp only [ofBytes, hdecode, hparse]
      simp [herror, SettingsError.isReported]
  | ok doc =>
    have hdoc : ofBytes file content = ofTable file.dropLast doc := by
      simp only [ofBytes, hdecode, hparse]
    rw [hdoc, ofTable_reported_iff, ofTable_unreported_iff]
    simp [ofTable_eq_ok_iff]

/-- A tool that is a number is well-formed, and what comes out is not an error in the settings. -/
theorem ofBytes_verdict_toolsNoTable :
    Utf8.decode [0x74, 0x6F, 0x6F, 0x6C, 0x3D, 0x33] = .ok "tool=3" ∧
    Toml.parse "tool=3" = .ok [("tool", .whole 3)] ∧
    ∃ e, ofBytes [fileName] [0x74, 0x6F, 0x6F, 0x6C, 0x3D, 0x33] = .error e ∧
      e.isReported = false := by
  have hdecode : Utf8.decode [0x74, 0x6F, 0x6F, 0x6C, 0x3D, 0x33] = .ok "tool=3" := by decide
  have hparse : Toml.parse "tool=3" = .ok [("tool", .whole 3)] := by rfl
  have hbeyond : IsBeyondReader [("tool", .whole 3)] := .inl ⟨.whole 3, rfl, by simp⟩
  refine ⟨hdecode, hparse, ?_⟩
  exact (ofBytes_verdict [fileName] hdecode (by simp [hparse])).2.1.mpr (.inr ⟨_, hparse, hbeyond⟩)

end Settings

end JqFlow
