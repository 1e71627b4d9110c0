import IndexShards.Path.Order
import IndexShards.Schema.Column
import IndexShards.Text.Lowercase
import Std.Data.ExtTreeMap

/-!
# Tables and their columns

A table is known by its name and by the directory that holds its segments.  Its columns are looked
up by name, in any letter case; where the catalog repeats a name, the first declaration counts.  A
column keeps the name it was declared with.

## What is here

* `TableId` — a table; two of them are equivalent if the names are equal and the paths have the
  same parts.
* `SchemaLookup` — the catalog as this library sees it: the column of a table with a given name.
* `TableSchema` — the columns of one table, with an index of their names (`nameIndex`) that is
  part of the value, so that it cannot go stale.
* `TableSchema.column`, `TableSchema.resolve` — looking a column up, and looking it up for a
  table.
-/

set_option autoImplicit false

namespace IndexShards

open Std Text

/-! ## Tables -/

/-- A table, and the directory under which its segments live. -/
structure TableId where
  name : String
  path : Path
deriving DecidableEq

namespace TableId

/-- What messages show. -/
def title (t : TableId) : String := t.name ++ " (" ++ t.path.text ++ ")"

/-- Two tables are equivalent if their names are equal and their paths are equivalent. -/
def Equiv (s t : TableId) : Prop := s.name = t.name ∧ s.path ≈ t.path

instance : HasEquiv TableId := ⟨Equiv⟩

theorem equiv_iff {s t : TableId} : s ≈ t ↔ s.name = t.name ∧ s.path ≈ t.path := Iff.rfl

instance (s t : TableId) : Decidable (s ≈ t) :=
  inferInstanceAs (Decidable (s.name = t.name ∧ s.path ≈ t.path))

/-- An order of tables that does not see how a path is spelled. -/
def cmp : TableId → TableId → Ordering :=
  compareLex (compareOn TableId.name) (compareOn fun t => t.path.parts)

instance : TransCmp cmp :=
  inferInstanceAs (TransCmp (compareLex (compareOn TableId.name) (compareOn fun t => t.path.parts)))

theorem cmp_eq_iff {s t : TableId} : s.cmp t = .eq ↔ s ≈ t := by
  rw [cmp, compareLex_eq_eq, equiv_iff, Path.equiv_iff]
  exact and_congr LawfulEqOrd.compare_eq_iff_eq LawfulEqOrd.compare_eq_iff_eq

end TableId

/-- The catalog of the host: the column of a table with a given name, if there is one. -/
abbrev SchemaLookup := TableId → String → Option Column

/-! ## The columns of one table -/

/-- Where each name stands first in a list of columns, letter case aside. -/
def nameIndex (columns : List Column) : ExtTreeMap String Nat :=
  columns.zipIdx.foldl (fun index (c, i) => index.insertIfNew (lowercase c.name) i) ∅

/-- The columns of one table. -/
structure TableSchema where
  tableName : String
  columns : List Column
  index : ExtTreeMap String Nat
  index_eq : index = nameIndex columns

namespace TableSchema

/-- The table with these columns. -/
def ofColumns (tableName : String) (columns : List Column) : TableSchema :=
  ⟨tableName, columns, nameIndex columns, rfl⟩

/-- The table with one more column. -/
def addColumn (s : TableSchema) (c : Column) : TableSchema :=
  ofColumns s.tableName (s.columns ++ [c])

/-- The column with this name, in any letter case. -/
def column (s : TableSchema) (name : String) : Option Column :=
  s.index[lowercase name]?.bind fun i => s.columns[i]?

/-- The column of `table` with this name, if the schema is the one of that table.  The names of
tables are compared without regard to letter case. -/
def resolve (s : TableSchema) : SchemaLookup := fun table name =>
  if lowercase s.tableName = lowercase table.name then s.column name else none

/-- A schema is its table's name and its columns; the index follows from them. -/
theorem ext_iff {s t : TableSchema} :
    s = t ↔ s.tableName = t.tableName ∧ s.columns = t.columns := by
  refine ⟨fun h => h ▸ ⟨rfl, rfl⟩, fun ⟨hn, hc⟩ => ?_⟩
  obtain ⟨_, _, _, rfl⟩ := s
  obtain ⟨_, _, _, rfl⟩ := t
  cases hn
  cases hc
  rfl

end TableSchema
end IndexShards
