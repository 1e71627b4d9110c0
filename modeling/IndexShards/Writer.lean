import IndexShards.Engine
import IndexShards.Log
import IndexShards.Row
import IndexShards.Segment.Layout

/-!
# Writing the rows of a segment

A writer binds an open writer of the engine to one segment and one directory.  Of each row it hands
on the texts of the indexed columns and nothing else.  A row that has none of these columns is
skipped, and one that holds something other than a text in one of them is refused.  Once closed, a
writer stays closed, and the engine hears nothing more from it.

## What is here

* `documentOf` — the texts that a row has for the indexed columns.
* `Writer ω` — the binding, with the counts of rows handed on and of rows skipped.
* `WriterStep ω` — what an operation answers and leaves behind.
* `Writer.addRow`, `Writer.flush`, `Writer.close` — the operations.
-/

set_option autoImplicit false

namespace IndexShards

/-! ## Documents -/

/-- The texts of the columns that the row has, in the order of the columns.  The first column with
something other than a text is an error. -/
def documentOf (indexName : String) (row : Row) : List String → Except Error Document
  | [] => .ok []
  | c :: cs =>
    match row.get? c with
    | none => documentOf indexName row cs
    | some (.text s) =>
      match documentOf indexName row cs with
      | .ok fields => .ok ((c, s) :: fields)
      | .error e => .error e
    | some v => .error (.invalidArgument (.notText c indexName v.typeName))

/-! ## Writers -/

/-- A writer of the engine for one segment and one directory. -/
structure Writer (ω : Type) where
  table : TableId
  indexName : String
  segment : Segment
  outputDir : Path
  /-- The indexed columns, in lower case. -/
  columns : List String
  engine : EngineWriter ω
  /-- The rows that the engine took. -/
  rowsAdded : Nat := 0
  /-- The rows that have none of the indexed columns. -/
  rowsSkipped : Nat := 0
  isClosed : Bool := false

/-- What an operation on a writer answers, and the writer and the state after it. -/
structure WriterStep (ω : Type) where
  answer : Except Error Unit
  writer : Writer ω
  world : ω
  log : List LogRecord := []

namespace Writer

variable {ω : Type}

/-- What a closed writer answers. -/
def closedError (w : Writer ω) : Error := .invalidArgument (.writerClosed w.outputDir)

/-- Hands the texts of the indexed columns of a row to the engine. -/
def addRow (w : Writer ω) (row : Row) (s : ω) : WriterStep ω :=
  if w.isClosed then ⟨.error w.closedError, w, s, []⟩
  else match documentOf w.indexName row w.columns with
    | .error e => ⟨.error e, w, s, []⟩
    | .ok [] => ⟨.ok (), { w with rowsSkipped := w.rowsSkipped + 1 }, s, []⟩
    | .ok fields =>
      match w.engine.addDocument fields s with
      | (.ok (), s) => ⟨.ok (), { w with rowsAdded := w.rowsAdded + 1 }, s, []⟩
      | (.error e, s) => ⟨.error e, w, s, []⟩

/-- Has the engine make the rows so far durable. -/
def flush (w : Writer ω) (s : ω) : WriterStep ω :=
  if w.isClosed then ⟨.error w.closedError, w, s, []⟩
  else
    let (answer, s) := w.engine.flush s
    ⟨answer, w, s, []⟩

/-- Closes the writer, and with it the one of the engine.  Whatever the engine answers, the writer
is closed; closing it again does nothing. -/
def close (w : Writer ω) (s : ω) : WriterStep ω :=
  if w.isClosed then ⟨.ok (), w, s, []⟩
  else
    let (answer, s) := w.engine.close s
    ⟨answer, { w with isClosed := true }, s,
      [⟨.debug, "closing text index writer " ++ w.indexName ++ " for segment " ++
        w.segment.id.text ++ " (" ++ toString w.rowsAdded ++ " rows)"⟩]⟩

theorem close_isClosed (w : Writer ω) (s : ω) : (w.close s).writer.isClosed = true := by
  rw [close]
  split <;> simp_all

end Writer
end IndexShards
