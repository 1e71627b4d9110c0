import IndexShards.Proofs.Initialize

/-!
# Writers, and the calls that their engine receives

A writer is opened by a manager and then takes rows, flushes and closes, in any order; other things
may happen in between.  What it is bound to never changes.  To say what the engine receives, any
engine can be given a host that keeps the calls: it answers as before, and every call is written
down before it is answered.

## What is here

* `Traced` — a host that keeps the calls; `Engine.traced`, `EngineWriter.traced` — an engine over
  it.
* `WriterOp`, `Writer.perform` — the operations on a writer, as data.
* `exists_perform_writer_eq` — what an operation leaves as it is.
* `Manager.HasWriter` — the writers that a manager opened, whatever was done with them since;
  `HasWriter.binds` — what they are bound to.
* `HasWriter.exists_traced` — they call the engine that the manager has.
* `Writer.bare`, `EngineWriter.unsteady` — a writer that was just opened, and an engine that fails
  at every second call.
-/

set_option autoImplicit false

namespace IndexShards

variable {ω : Type}

/-! ## A host that keeps the calls -/

/-- The state of a host, and the calls that its engine has received. -/
structure Traced (ω : Type) where
  host : ω
  calls : List EngineCall := []

namespace Traced

/-- One more call. -/
def note (call : EngineCall) (t : Traced ω) : Traced ω := { t with calls := t.calls ++ [call] }

/-- What happens to the host does not touch the calls. -/
def lift {α : Type} (f : ω → α × ω) (t : Traced ω) : α × Traced ω :=
  ((f t.host).1, { t with host := (f t.host).2 })

end Traced

/-- The same writer, over a host that keeps the calls, but without writing any down. -/
def EngineWriter.lifted (e : EngineWriter ω) : EngineWriter (Traced ω) where
  addDocument fields := Traced.lift (e.addDocument fields)
  flush := Traced.lift e.flush
  close := Traced.lift e.close

/-- The same engine, over a host that keeps the calls, but without writing any down. -/
def Engine.lifted (e : Engine ω) : Engine (Traced ω) where
  openWriter dir columns analyzer t :=
    let (opened, t) := Traced.lift (e.openWriter dir columns analyzer) t
    (opened.map EngineWriter.lifted, t)

/-- The same writer, with every call kept. -/
def EngineWriter.traced (e : EngineWriter ω) : EngineWriter (Traced ω) :=
  e.lifted.recording Traced.note

/-- The same engine, with every call kept. -/
def Engine.traced (e : Engine ω) : Engine (Traced ω) := e.lifted.recording Traced.note

theorem EngineWriter.addDocument_traced (e : EngineWriter ω) (fields : Document) (t : Traced ω) :
    e.traced.addDocument fields t = ((e.addDocument fields t.host).1,
      ⟨(e.addDocument fields t.host).2, t.calls ++ [.addDocument fields]⟩) := rfl

theorem Engine.openWriter_traced (e : Engine ω) (dir : Path) (columns : List String)
    (analyzer : Analyzer) (t : Traced ω) : (e.traced.openWriter dir columns analyzer t).1 =
      (e.openWriter dir columns analyzer t.host).1.map EngineWriter.traced := by
  rcases hopened : e.openWriter dir columns analyzer t.host with ⟨opened, host⟩
  simp only [traced, recording, lifted, Traced.lift, Traced.note, hopened]
  cases opened <;> rfl

/-! ## Operations -/

/-- An operation on a writer. -/
inductive WriterOp where
  | addRow (row : Row)
  | flush
  | close

namespace Writer

/-- Does what the operation says. -/
def perform (w : Writer ω) (op : WriterOp) (s : ω) : WriterStep ω :=
  match op with
  | .addRow row => w.addRow row s
  | .flush => w.flush s
  | .close => w.close s

/-- An operation changes the counts and closes the writer, and leaves the rest of it as it is. -/
theorem exists_perform_writer_eq (w : Writer ω) (op : WriterOp) (s : ω) :
    ∃ added skipped closed, (w.perform op s).writer =
      { w with rowsAdded := added, rowsSkipped := skipped, isClosed := closed } := by
  cases op with
  | addRow row =>
    rw [perform, addRow]
    repeat' split
    all_goals exact ⟨_, _, _, rfl⟩
  | flush =>
    rw [perform, flush]
    split <;> exact ⟨_, _, _, rfl⟩
  | close =>
    rw [perform, close]
    split <;> exact ⟨_, _, _, rfl⟩

end Writer

/-! ## The writers of a manager -/

namespace Manager

variable {m : Manager ω} {w : Writer ω}

/-- The manager opened the writer, and since then any operations were done with it, each in
whatever state the host was by then. -/
inductive HasWriter (m : Manager ω) : Writer ω → Prop where
  | opened {segment : Segment} {dir : Path} {s : ω} {w : Writer ω}
      (h : (m.openWriter segment dir s).value = .ok w) : HasWriter m w
  | performed {w : Writer ω} (op : WriterOp) (s : ω) (h : HasWriter m w) :
      HasWriter m (w.perform op s).writer

/-- The writer is bound to the index and the columns of the manager, and to a writer that the
engine of the manager opened for it. -/
structure Binds (m : Manager ω) (w : Writer ω) : Prop where
  table_eq : w.table = m.table
  indexName_eq : w.indexName = m.indexName
  columns_eq : w.columns = m.columns
  exists_opened : ∃ s,
    (m.engine.openWriter w.outputDir m.columns m.analyzer s).1 = .ok w.engine

theorem binds_of_openWriter {segment : Segment} {dir : Path} {s : ω}
    (h : (m.openWriter segment dir s).value = .ok w) : m.Binds w := by
  obtain ⟨engine, hopened, rfl⟩ := map_eq_ok_iff.1 h
  exact ⟨rfl, rfl, rfl, s, hopened⟩

theorem Binds.perform (h : m.Binds w) (op : WriterOp) (s : ω) :
    m.Binds (w.perform op s).writer := by
  obtain ⟨added, skipped, closed, hw⟩ := w.exists_perform_writer_eq op s
  rw [hw]
  exact ⟨h.table_eq, h.indexName_eq, h.columns_eq, h.exists_opened⟩

/-- **Whatever is done with a writer, it stays bound to what it was opened for.** -/
theorem HasWriter.binds (h : m.HasWriter w) : m.Binds w := by
  induction h with
  | opened h => exact binds_of_openWriter h
  | performed op s _ ih => exact ih.perform op s

/-- A writer of a manager with a traced engine calls a traced writer of that engine. -/
theorem HasWriter.exists_traced {m : Manager (Traced ω)} {w : Writer (Traced ω)} {e : Engine ω}
    (h : m.HasWriter w) (he : m.engine = e.traced) :
    ∃ engine : EngineWriter ω, w.engine = engine.traced := by
  obtain ⟨t, ht⟩ := h.binds.exists_opened
  rw [he, Engine.openWriter_traced] at ht
  obtain ⟨engine, -, hengine⟩ := map_eq_ok_iff.1 ht
  exact ⟨engine, hengine.symm⟩

end Manager

/-! ## Writers that were just opened -/

/-- A writer that was just opened for the segment `0`. -/
def Writer.bare (table : TableId) (indexName : String) (columns : List String)
    (engine : EngineWriter ω) : Writer ω where
  table := table
  indexName := indexName
  segment := ⟨⟨"0"⟩⟩
  outputDir := indexPath table ⟨"0"⟩ indexName
  columns := columns
  engine := engine

/-- A writer of an engine that fails at every second call.  The state says whether the next call is
such a one. -/
def EngineWriter.unsteady : EngineWriter Bool where
  addDocument _ := answer
  flush := answer
  close := answer
where
  /-- The answer to any call. -/
  answer (failing : Bool) : Except Error Unit × Bool :=
    (if failing then .error (.storage (.other "disk full")) else .ok (), !failing)

end IndexShards
