import IndexShards.Proofs.Initialize
import IndexShards.Proofs.Persist.RoundTrip

/-!
# One name for one column

A planner asks two sources about a column.  The description of an index lists the names of its
columns in lower case, and is searched from the front; the catalog has the columns as they were
declared, some names perhaps more than once, and looks them up in an index of names.  Neither knows
of the other, and the planner may spell the name in any way.

They agree because lowercasing twice is lowercasing once.  A listed name is in lower case, and the
first column with that name in the catalog is the one that was checked when the manager was made.

## What is here

* `IndexMeta.Agrees` — a description and a schema agree on a name.
* `Manager.agrees_of_initialize` — **the description of a manager agrees with the catalog on every
  name**, as it is made and as it is read back after it was stored.
-/

set_option autoImplicit false

namespace IndexShards

open Text

variable {ω : Type}

/-- A column is looked up in lower case, so the name may be in lower case already. -/
theorem TableSchema.resolve_lowercase (s : TableSchema) (table : TableId) (name : String) :
    s.resolve table (lowercase name) = s.resolve table name := by
  rw [resolve, resolve, column, column, lowercase_lowercase]

/-- A description and a schema agree on a name. -/
structure IndexMeta.Agrees (d : IndexMeta) (schema : TableSchema) (table : TableId)
    (name : String) : Prop where
  /-- The name is indexed exactly if it is resolved as a column whose own name is listed. -/
  isIndexed_iff : d.isIndexed name = true ↔ ∃ column, schema.resolve table name = some column ∧
    lowercase column.name ∈ d.indexedColumns
  /-- That column holds plain strings, stored as they are. -/
  isText : ∀ column, schema.resolve table name = some column →
    lowercase column.name ∈ d.indexedColumns →
      column.dataType = .string ∧ Encoding.dictionary ∉ column.encodings

/-- Agreement follows if every listed name is the one of a column that holds text. -/
theorem IndexMeta.agrees_of_listed {d : IndexMeta} {schema : TableSchema} {table : TableId}
    (hlisted : ∀ c ∈ d.indexedColumns, ∃ column, schema.resolve table c = some column ∧
      lowercase column.name = c ∧ column.dataType = .string ∧
      Encoding.dictionary ∉ column.encodings)
    (name : String) : d.Agrees schema table name := by
  -- What is resolved has the name that was asked for, letter case aside.
  have hname : ∀ column, schema.resolve table name = some column →
      lowercase column.name = lowercase name := fun column h =>
    (TableSchema.column_eq_some_iff.1 (TableSchema.resolve_eq_some_iff.1 h).2).1
  refine ⟨⟨fun h => ?_, ?_⟩, fun column hcolumn hmem => ?_⟩
  · have hmem := isIndexed_iff.1 h
    obtain ⟨column, hcolumn, -, -⟩ := hlisted _ hmem
    rw [TableSchema.resolve_lowercase] at hcolumn
    exact ⟨column, hcolumn, (hname column hcolumn).symm ▸ hmem⟩
  · rintro ⟨column, hcolumn, hmem⟩
    exact isIndexed_iff.2 (hname column hcolumn ▸ hmem)
  · obtain ⟨column', hcolumn', -, htext⟩ := hlisted _ hmem
    rw [hname column hcolumn, TableSchema.resolve_lowercase, hcolumn] at hcolumn'
    cases hcolumn'
    exact htext

namespace Manager

/-- **Planner, catalog and definition agree on names.**  The description of a manager agrees with
the schema that its definition was checked against on every name, in any spelling, and so does the
description that is read back after this one was stored. -/
theorem agrees_of_initialize {s : Setup ω} {schema : TableSchema} {table : TableId}
    {d : Definition} {m : Manager ω} {log : List LogRecord}
    (hschema : s.schema? = some schema.resolve) (hm : s.initialize table d = .ok ⟨m, log⟩) :
    (∀ name, m.description.Agrees schema table name) ∧
      ∃ stored : IndexMeta, read? (write m.description) = some stored ∧
        ∀ name, stored.Agrees schema table name := by
  have hagrees := IndexMeta.agrees_of_listed (d := m.description) fun c hc =>
    exists_column_of_initialize hschema hm hc
  exact ⟨hagrees, m.description, (stores_indexMeta m.description).read?_eq (by decide), hagrees⟩

/-- The list, the schema and the question spell one name in three ways, and a second column of that
name, which holds no text, is never seen. -/
theorem agrees_of_initialize_of_spellings :
    let schema := TableSchema.ofColumns "Orders"
      [.ofStrings "İd", ⟨"COMMENT", .string, [.dictionary]⟩, ⟨"i\u0307D", .int, []⟩]
    let table : TableId := ⟨"orders", ⟨"/t"⟩⟩
    let d := Definition.withProperty ⟨"idx", ∅⟩ textColumnsKey " i\u0307d "
    let m : Manager Unit := .bare table "idx" ["i\u0307d"] .accepting
    ∃ log, Setup.initialize (m.services schema.resolve) table d = .ok ⟨m, log⟩ ∧
      ∃ stored : IndexMeta, read? (write m.description) = some stored ∧
      stored.isIndexed "İD" = true ∧ stored.isIndexed "comment" = false ∧
      (schema.resolve table "comment").isSome = true := by
  intro schema table d m
  have hcolumn : schema.resolve table "i\u0307d" = some (.ofStrings "İd") := by decide +kernel
  have hcolumns : validateColumns textColumnsKey d.properties table schema.resolve =
      .ok ["i\u0307d"] := by
    refine validateColumns_eq_ok_iff.2 ⟨" i\u0307d ", by decide +kernel, by decide +kernel,
      by decide +kernel, by decide, by decide, List.forall_mem_singleton.2 ⟨_, hcolumn, rfl⟩⟩
  obtain ⟨log, hm⟩ := m.exists_initialize_services rfl (by decide +kernel) hcolumns
  obtain ⟨-, stored, hstored, hagrees⟩ := agrees_of_initialize
    (show (m.services schema.resolve).schema? = some schema.resolve from rfl) hm
  have hdescription : stored = m.description := by
    rw [(stores_indexMeta m.description).read?_eq (by decide)] at hstored
    exact (Option.some.inj hstored).symm
  refine ⟨log, hm, stored, hstored,
    (hagrees "İD").isIndexed_iff.2 ⟨.ofStrings "İd", ?_, ?_⟩, ?_, ?_⟩
  · decide +kernel
  · rw [hdescription]
    decide +kernel
  · rw [Bool.eq_false_iff, ne_eq, (hagrees "comment").isIndexed_iff, hdescription]
    decide +kernel
  · decide +kernel

end Manager
end IndexShards
