import IndexShards.Definition.Columns

/-!
# Looking columns up

A table keeps an index of the names of its columns, so that a name is looked up without going
through the columns.  The index says what going through them would say: under the lower case of a
name stands the first column whose own name has that lower case.

## What is here

* `getElem?_nameIndex` — **the index finds the first declaration of a name**.
* `column_eq_find?`, `column_eq_some_iff` — looking a column up, without the index.
* `resolve_eq_some_iff` — the same for a table, whose name counts in any letter case as well.
* `textColumns_of_validateColumns` — what the columns of an accepted list are, in the schema.
-/

set_option autoImplicit false

namespace IndexShards

open Std Text

/-! ## The index of names -/

/-- Indexing columns that stand after `i` others leaves the names alone that are there already, and
adds the first place of each of the other ones. -/
theorem getElem?_foldl_insertIfNew (columns : List Column) (i : Nat)
    (index : ExtTreeMap String Nat) (name : String) :
    ((columns.zipIdx i).foldl
      (fun index (c, i) => index.insertIfNew (lowercase c.name) i) index)[name]? =
      index[name]?.or
        ((columns.findIdx? fun c => lowercase c.name == name).map fun k => k + i) := by
  induction columns generalizing i index with
  | nil => simp
  | cons c columns ih =>
    rw [List.zipIdx_cons, List.foldl_cons, ih, ExtTreeMap.getElem?_insertIfNew,
      List.findIdx?_cons]
    by_cases hname : lowercase c.name = name
    · subst hname
      simp only [ExtTreeMap.mem_iff_isSome_getElem?]
      cases index[lowercase c.name]? <;> simp
    · have hshift : (fun k => k + (i + 1)) = fun k => k + 1 + i := by
        funext k
        omega
      rw [if_neg fun h => hname (LawfulEqCmp.eq_of_compare h.1), if_neg (by simpa using hname),
        Option.map_map, hshift]
      rfl

/-- **The index finds the first declaration of a name.** -/
theorem getElem?_nameIndex (columns : List Column) (name : String) :
    (nameIndex columns)[name]? = columns.findIdx? fun c => lowercase c.name == name := by
  rw [nameIndex, getElem?_foldl_insertIfNew]
  simp

/-! ## Columns -/

namespace TableSchema

/-- The index is a shortcut: a column is looked up as if all columns were gone through. -/
theorem column_eq_find? (s : TableSchema) (name : String) :
    s.column name = s.columns.find? fun c => lowercase c.name == lowercase name := by
  rw [column, s.index_eq, getElem?_nameIndex, List.find?_eq_bind_findIdx?_getElem?]

/-- A column that is found has the name, in some letter case, and is the first one that has. -/
theorem column_eq_some_iff {s : TableSchema} {name : String} {c : Column} :
    s.column name = some c ↔ lowercase c.name = lowercase name ∧
      ∃ before after, s.columns = before ++ c :: after ∧
        ∀ b ∈ before, lowercase b.name ≠ lowercase name := by
  rw [column_eq_find?, List.find?_eq_some_iff_append]
  simp

theorem resolve_eq_some_iff {s : TableSchema} {table : TableId} {name : String} {c : Column} :
    s.resolve table name = some c ↔
      lowercase s.tableName = lowercase table.name ∧ s.column name = some c := by
  rw [resolve]
  split
  · next h => simp [h]
  · next h => simp [h]

end TableSchema

/-! ## Accepted lists -/

/-- The entries of a column list are in lower case. -/
theorem lowercase_of_mem_columnNames {raw c : String} (h : c ∈ columnNames raw) :
    lowercase c = c := by
  obtain ⟨piece, -, rfl⟩ := List.mem_map.1 h
  exact lowercase_lowercase _

/-- Every column of an accepted list is the lowercased name of a column that the schema resolves,
and that column holds plain strings, stored as they are. -/
theorem textColumns_of_validateColumns {key : String} {properties : ExtTreeMap String String}
    {table : TableId} {s : TableSchema} {columns : List String}
    (h : validateColumns key properties table s.resolve = .ok columns) {c : String}
    (hc : c ∈ columns) : ∃ column, s.resolve table c = some column ∧
      lowercase column.name = c ∧ column.dataType = .string ∧
      Encoding.dictionary ∉ column.encodings := by
  obtain ⟨raw, -, -, rfl, -, -, hlookup⟩ := validateColumns_eq_ok_iff.1 h
  obtain ⟨column, hresolve, htext⟩ := hlookup c hc
  have hname := (TableSchema.column_eq_some_iff.1 (TableSchema.resolve_eq_some_iff.1 hresolve).2).1
  exact ⟨column, hresolve, hname.trans (lowercase_of_mem_columnNames hc), Column.isText_iff.1 htext⟩

end IndexShards
