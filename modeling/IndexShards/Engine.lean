import IndexShards.Definition
import IndexShards.Error

/-!
# What the library asks of a full-text engine

The engine that builds the files of an index lives outside.  It opens a writer for a directory and
the columns that will come, and the writer takes documents, each of them some of the columns with
their texts.  Every call may change the state of the host, and may fail.

## What is here

* `EngineWriter ω`, `Engine ω` — a writer of the engine and the engine, over a state `ω`.
* `EngineCall` — a call that an engine receives.
* `Engine.recording` — the same engine, with every call written down before it is answered.
-/

set_option autoImplicit false

namespace IndexShards

/-- A document: texts of columns, in the order of the index. -/
abbrev Document := List (String × String)

/-- An open writer of the engine. -/
structure EngineWriter (ω : Type) where
  /-- Takes a document. -/
  addDocument : Document → ω → Except Error Unit × ω
  /-- Makes the documents so far durable. -/
  flush : ω → Except Error Unit × ω
  /-- Makes them durable and gives the writer back. -/
  close : ω → Except Error Unit × ω

/-- Opens a writer for a directory, columns and an analyzer. -/
structure Engine (ω : Type) where
  openWriter : Path → List String → Analyzer → ω → Except Error (EngineWriter ω) × ω

/-! ## Calls written down -/

/-- A call that an engine receives. -/
inductive EngineCall where
  | openWriter (dir : Path) (columns : List String) (analyzer : Analyzer)
  | addDocument (fields : Document)
  | flush
  | close
deriving DecidableEq

/-- The same writer; `note` writes every call down before it is answered. -/
def EngineWriter.recording {ω : Type} (e : EngineWriter ω) (note : EngineCall → ω → ω) :
    EngineWriter ω where
  addDocument fields w := e.addDocument fields (note (.addDocument fields) w)
  flush w := e.flush (note .flush w)
  close w := e.close (note .close w)

/-- The same engine; `note` writes every call down before it is answered. -/
def Engine.recording {ω : Type} (e : Engine ω) (note : EngineCall → ω → ω) : Engine ω where
  openWriter dir columns analyzer w :=
    match e.openWriter dir columns analyzer (note (.openWriter dir columns analyzer) w) with
    | (.ok writer, w) => (.ok (writer.recording note), w)
    | (.error e, w) => (.error e, w)

end IndexShards
