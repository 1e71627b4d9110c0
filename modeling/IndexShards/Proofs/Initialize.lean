import IndexShards.Manager
import IndexShards.Proofs.Schema

/-!
# What a manager is made of

A manager is made once, from a definition, and never changes.  So all that can be said of a manager
is said by what it takes to make one.

## What is here

* `Setup.made` — the manager that given services and columns make.
* `initialize_eq_ok_iff` — **a manager is made exactly if all services but the file system are
  given, the name is not blank and the column list is accepted**, and it is made of these.
* `Manager.columns_of_initialize`, `Manager.exists_column_of_initialize` — the columns of a manager.
* `Manager.Initialized` — the managers that can be made at all.
* `Manager.exists_initialize_services` — a manager is made again of its own services.
* `Manager.bare`, `Engine.accepting`, `Engine.absent` — a manager that needs hardly any services,
  and two engines for it.
-/

set_option autoImplicit false

namespace IndexShards

open Text

variable {ω : Type}

/-! ## Making a manager -/

theorem bind_eq_ok_iff {ε α β : Type} {x : Except ε α} {f : α → Except ε β} {b : β} :
    (x >>= f) = .ok b ↔ ∃ a, x = .ok a ∧ f a = .ok b := by
  cases x with
  | error e => exact ⟨nofun, nofun⟩
  | ok a =>
    constructor
    · exact fun h => ⟨a, rfl, h⟩
    · rintro ⟨a', ha, h⟩
      rwa [Except.ok.inj ha]

theorem required_eq_ok_iff {α : Type} {service : Service} {a? : Option α} {a : α} :
    required service a? = .ok a ↔ a? = some a := by
  cases a? <;> simp [required]

theorem mapError_eq_ok_iff {ε ε' α : Type} {f : ε → ε'} {x : Except ε α} {a : α} :
    x.mapError f = .ok a ↔ x = .ok a := by
  cases x with
  | error e => exact ⟨nofun, nofun⟩
  | ok b => exact ⟨fun h => congrArg _ (Except.ok.inj h), fun h => congrArg _ (Except.ok.inj h)⟩

theorem map_eq_ok_iff {ε α β : Type} {f : α → β} {x : Except ε α} {b : β} :
    x.map f = .ok b ↔ ∃ a, x = .ok a ∧ f a = b := by
  cases x <;> simp [Except.map]

/-- The manager that these services and columns make. -/
def Setup.made (s : Setup ω) (table : TableId) (d : Definition) (status : StatusSource ω)
    (registry : RegistrySource ω) (engine : Engine ω) (columns : List String) : Manager ω where
  table := table
  description := .ofColumns d.indexName columns
  config := s.config
  storage := s.storage?.getD (s.storageFor s.config.storage)
  status := status
  registry := registry
  engine := engine

/-- **When a manager is made, and of what.** -/
theorem initialize_eq_ok_iff {s : Setup ω} {table : TableId} {d : Definition} {m : Manager ω} :
    (∃ log, s.initialize table d = .ok ⟨m, log⟩) ↔
      ∃ schema status registry engine columns, s.schema? = some schema ∧
        s.status? = some status ∧ s.registry? = some registry ∧ s.engine? = some engine ∧
        Text.isBlankText d.indexName = false ∧
        validateColumns s.config.propertyKey d.properties table schema = .ok columns ∧
        m = s.made table d status registry engine columns := by
  constructor
  · rintro ⟨log, h⟩
    unfold Setup.initialize at h
    simp only [bind_eq_ok_iff, required_eq_ok_iff] at h
    obtain ⟨schema, hschema, status, hstatus, registry, hregistry, engine, hengine, h⟩ := h
    split at h
    · obtain ⟨_, h, -⟩ := bind_eq_ok_iff.1 h
      cases h
    · next hblank =>
      obtain ⟨columns, hcolumns, h⟩ := bind_eq_ok_iff.1 h
      cases h
      exact ⟨schema, status, registry, engine, columns, hschema, hstatus, hregistry, hengine,
        Bool.not_eq_true _ ▸ hblank, mapError_eq_ok_iff.1 hcolumns, rfl⟩
  · rintro ⟨schema, status, registry, engine, columns, hschema, hstatus, hregistry, hengine,
      hblank, hcolumns, rfl⟩
    refine ⟨[⟨.info, "initialized text index " ++ d.indexName ++ " on table " ++ table.name ++
      " with columns " ++ Text.quotedList columns⟩], ?_⟩
    unfold Setup.initialize
    rw [hschema, hstatus, hregistry, hengine]
    simp only [bind_eq_ok_iff, required_eq_ok_iff, Option.some.injEq, exists_eq_left', hblank,
      Bool.false_eq_true, ↓reduceIte, mapError_eq_ok_iff, hcolumns, Except.ok.injEq]
    rfl

/-! ## The columns of a manager -/

namespace Manager

/-- The columns of a manager are the entries of the list in its definition, which are in lower case
and all different. -/
theorem columns_of_initialize {s : Setup ω} {table : TableId} {d : Definition} {m : Manager ω}
    {log : List LogRecord} (hm : s.initialize table d = .ok ⟨m, log⟩) :
    (∃ raw, d.property? s.config.propertyKey = some raw ∧ IsEntries raw m.columns) ∧
      m.columns.Nodup ∧ ∀ c ∈ m.columns, lowercase c = c := by
  obtain ⟨schema, _, _, _, columns, -, -, -, -, -, hcolumns, rfl⟩ :=
    initialize_eq_ok_iff.1 ⟨log, hm⟩
  obtain ⟨raw, hraw, -, heq, -, hnodup, -⟩ := validateColumns_eq_ok_iff.1 hcolumns
  refine ⟨⟨raw, hraw, isEntries_iff.2 heq⟩, hnodup, fun c hc => ?_⟩
  exact lowercase_of_mem_columnNames (heq ▸ hc : c ∈ columnNames raw)

/-- Each of them names a column of the schema that holds plain strings, stored as they are. -/
theorem exists_column_of_initialize {s : Setup ω} {schema : TableSchema} {table : TableId}
    {d : Definition} {m : Manager ω} {log : List LogRecord}
    (hschema : s.schema? = some schema.resolve) (hm : s.initialize table d = .ok ⟨m, log⟩)
    {c : String} (hc : c ∈ m.columns) : ∃ column, schema.resolve table c = some column ∧
      lowercase column.name = c ∧ column.dataType = .string ∧
      Encoding.dictionary ∉ column.encodings := by
  obtain ⟨_, _, _, _, columns, hs, -, -, -, -, hcolumns, rfl⟩ := initialize_eq_ok_iff.1 ⟨log, hm⟩
  rw [hschema] at hs
  cases hs
  exact textColumns_of_validateColumns hcolumns hc

end Manager

/-! ## All managers -/

/-- The manager is one that some setup makes of some definition. -/
def Manager.Initialized (m : Manager ω) : Prop :=
  ∃ (s : Setup ω) (table : TableId) (d : Definition) (log : List LogRecord),
    s.initialize table d = .ok ⟨m, log⟩

theorem Manager.Initialized.indexName_ne_empty {m : Manager ω} (h : m.Initialized) :
    m.indexName ≠ "" := by
  obtain ⟨s, table, d, log, h⟩ := h
  obtain ⟨_, _, _, _, columns, _, _, _, _, hblank, _, rfl⟩ := initialize_eq_ok_iff.1 ⟨log, h⟩
  intro (he : d.indexName = "")
  rw [he] at hblank
  cases hblank

/-! ## Making a manager again -/

namespace Manager

/-- The services of a manager, and a catalog. -/
def services (m : Manager ω) (schema : SchemaLookup) : Setup ω where
  storageFor _ := m.storage
  config := m.config
  storage? := some m.storage
  schema? := some schema
  status? := some m.status
  registry? := some m.registry
  engine? := some m.engine

/-- With its own services a manager is made again from a definition that the catalog accepts. -/
theorem exists_initialize_services (m : Manager ω) {schema : SchemaLookup} {d : Definition}
    {columns : List String} (hm : m.description = .ofColumns d.indexName columns)
    (hname : isBlankText d.indexName = false)
    (hcolumns : validateColumns m.config.propertyKey d.properties m.table schema = .ok columns) :
    ∃ log, Setup.initialize (m.services schema) m.table d = .ok ⟨m, log⟩ := by
  refine initialize_eq_ok_iff.2 ⟨schema, m.status, m.registry, m.engine, columns, rfl, rfl, rfl,
    rfl, hname, hcolumns, ?_⟩
  rw [Setup.made, ← hm]
  rfl

end Manager

/-! ## Managers and engines for small hosts -/

/-- The manager of an index with nothing on the file system, no segments and no other indexes. -/
def Manager.bare (table : TableId) (indexName : String) (columns : List String)
    (engine : Engine ω) : Manager ω where
  table := table
  description := .ofColumns indexName columns
  config := .standard
  storage := .vacant
  status _ _ := .ok []
  registry _ _ := .ok []
  engine := engine

/-- A writer of an engine that takes everything and does nothing. -/
def EngineWriter.accepting : EngineWriter ω where
  addDocument _ w := (.ok (), w)
  flush w := (.ok (), w)
  close w := (.ok (), w)

/-- An engine that takes everything and does nothing. -/
def Engine.accepting : Engine ω := ⟨fun _ _ _ w => (.ok .accepting, w)⟩

/-- No engine: a writer is never opened. -/
def Engine.absent : Engine ω := ⟨fun _ _ _ w => (.error (.storage (.other "no engine")), w)⟩

end IndexShards
