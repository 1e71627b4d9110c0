import IndexShards.Config
import IndexShards.Definition.Columns
import IndexShards.Segment.Status
import IndexShards.Shard
import IndexShards.Text.Quoted
import IndexShards.Writer

/-!
# The manager of one text index

A manager stands for one index on one table.  It is made from a definition, which is checked against
the catalog first, and never changes afterwards.  While a table is written it opens writers; while a
query is planned it lists the tasks; and when the index is dropped it removes the data.

## What is here

* `Manager ω` — the index, and the services it works with over the state `ω` of the host.
* `Setup ω`, `Setup.initialize` — the services as they are collected, and the manager made of
  them.
* `Manager.openWriter` — a writer for one write task of a segment.
* `Manager.listTasks` — the probe tasks of a segment.

Dropping the data is in `IndexShards.Manager.Drop`.
-/

set_option autoImplicit false

namespace IndexShards

/-! ## Managers -/

/-- One text index on one table, and the services it works with. -/
structure Manager (ω : Type) where
  table : TableId
  description : IndexMeta
  config : Config
  storage : FileSystem ω
  status : StatusSource ω
  registry : RegistrySource ω
  engine : Engine ω

namespace Manager

variable {ω : Type}

/-- The name of the index. -/
def indexName (m : Manager ω) : String := m.description.indexName

/-- The indexed columns, in lower case. -/
def columns (m : Manager ω) : List String := m.description.indexedColumns

/-- The analyzer that every writer gets. -/
def analyzer (m : Manager ω) : Analyzer := m.config.analyzer

/-- The directory of the index in a segment. -/
def indexDir (m : Manager ω) (segment : SegmentId) : Path :=
  indexPath m.table segment m.indexName

end Manager

/-! ## Making a manager -/

/-- The services of a manager, as far as they have been given, and the file systems that stand
ready for each kind of storage. -/
structure Setup (ω : Type) where
  storageFor : StorageKind → FileSystem ω
  config : Config := .standard
  storage? : Option (FileSystem ω) := none
  schema? : Option SchemaLookup := none
  status? : Option (StatusSource ω) := none
  registry? : Option (RegistrySource ω) := none
  engine? : Option (Engine ω) := none

/-- A service that has to be there. -/
def required {α : Type} (service : Service) : Option α → Except Error α
  | some a => .ok a
  | none => .error (.invalidArgument (.missing service))

/-- Makes the manager of an index.  Everything but the file system has to be given, the name must
not be blank, and the column list has to stand the check; without a file system, the configured kind
of storage is used. -/
def Setup.initialize {ω : Type} (s : Setup ω) (table : TableId) (d : Definition) :
    Except Error (Noted (Manager ω)) := do
  let schema ← required .schema s.schema?
  let status ← required .status s.status?
  let registry ← required .registry s.registry?
  let engine ← required .engine s.engine?
  if Text.isBlankText d.indexName then throw (.invalidArgument .blankIndexName)
  let columns ←
    (validateColumns s.config.propertyKey d.properties table schema).mapError .definition
  let manager : Manager ω :=
    { table := table
      description := .ofColumns d.indexName columns
      config := s.config
      storage := s.storage?.getD (s.storageFor s.config.storage)
      status := status
      registry := registry
      engine := engine }
  return ⟨manager, [⟨.info, "initialized text index " ++ d.indexName ++ " on table " ++
    table.name ++ " with columns " ++ Text.quotedList columns⟩]⟩

/-! ## Writing and planning -/

/-- An answer, the messages on the way to it, and the state after it. -/
structure Outcome (ω α : Type) where
  value : α
  log : List LogRecord
  world : ω

namespace Manager

variable {ω : Type}

/-- Opens a writer for one write task of a segment.  A failure of the engine is returned as it
is. -/
def openWriter (m : Manager ω) (segment : Segment) (dir : Path) (w : ω) :
    Outcome ω (Except Error (Writer ω)) :=
  let (opened, w) := m.engine.openWriter dir m.columns m.analyzer w
  { value := opened.map fun engine =>
      { table := m.table, indexName := m.indexName, segment := segment, outputDir := dir,
        columns := m.columns, engine := engine }
    log := [⟨.info, "text index data write to " ++ dir.text⟩]
    world := w }

/-- The probe tasks for those shards of a segment that the filter names, over all text indexes of
the table.  An empty filter needs no look at the file system. -/
def listTasks (m : Manager ω) (segment : SegmentId) (filter : ShardFilter) (w : ω) :
    Noted (List ProbeTask) :=
  if filter.isEmpty then ⟨[], []⟩
  else
    let located := locateShards m.table m.storage m.registry segment w
    let tasks := probeTasks m.table segment located.value filter
    ⟨tasks, located.log ++ [⟨.debug, "segment " ++ segment.text ++ " of table " ++ m.table.name ++
      ": " ++ toString tasks.length ++ " distributable shards"⟩]⟩

/-- Forgets what is known of a segment, which is nothing: the state stays as it is. -/
def clear (_ : Manager ω) (_ : SegmentId) (w : ω) : ω := w

/-- Forgets what is known of all segments, which is nothing: the state stays as it is. -/
def clearAll (_ : Manager ω) (w : ω) : ω := w

end Manager
end IndexShards
