import IndexShards.Proofs.Persist.RoundTrip
import IndexShards.Proofs.Schema

/-!
# Schemas, however they come about

The columns of a schema are declared one after another, or they are read from JSON.  What is stored
is the name of the table and the columns; the index of names is not, and whatever a document says in
its place is passed over.  So both ways end in the same step, which goes through the columns in the
order of their declaration and indexes each name where it stands first.  Names may be repeated, in
one letter case or in several: the first declaration counts, on either way.

## What is here

* `FirstNamed columns name answer` — the answer is the first column with that name, letter case
  aside, or there is none.  `find?_eq_iff_firstNamed` says that going through the columns finds it.
* `TableSchema.Declaration`, `TableSchema.declare` — declarations as data, and what they make.
* `JsonValue.GivesTable` — what a document says of a table; `decode_eq_some_iff` reads it.
* `TableSchema.Represents` — a schema stands for the columns of a table and answers for them.
* `TableSchema.represents_exact` — **a declared schema represents what was declared, and a schema
  that was read represents what the document says**.
-/

set_option autoImplicit false

namespace IndexShards

open Std Text Decoder

/-! ## The first column of a name -/

/-- The answer to a name: the first of the columns whose own name is the same, letter case aside, or
nothing if no column has that name. -/
inductive FirstNamed (columns : List Column) (name : String) : Option Column → Prop
  | found {before after : List Column} {c : Column} (hsplit : columns = before ++ c :: after)
      (hname : lowercase c.name = lowercase name)
      (hfirst : ∀ b ∈ before, lowercase b.name ≠ lowercase name) :
      FirstNamed columns name (some c)
  | missing (h : ∀ c ∈ columns, lowercase c.name ≠ lowercase name) : FirstNamed columns name none

/-- Going through the columns finds the first one of a name. -/
theorem find?_eq_iff_firstNamed {columns : List Column} {name : String} {answer : Option Column} :
    (columns.find? fun c => lowercase c.name == lowercase name) = answer ↔
      FirstNamed columns name answer := by
  cases answer with
  | none =>
    rw [List.find?_eq_none]
    constructor
    · intro h
      exact .missing fun c hc hname => h c hc (beq_iff_eq.2 hname)
    · intro h
      cases h with
      | missing h => exact fun c hc hname => h c hc (beq_iff_eq.1 hname)
  | some c =>
    rw [List.find?_eq_some_iff_append]
    constructor
    · rintro ⟨hname, before, after, hsplit, hfirst⟩
      exact .found hsplit (beq_iff_eq.1 hname) fun b hb => by simpa using hfirst b hb
    · intro h
      cases h with
      | found hsplit hname hfirst =>
        exact ⟨beq_iff_eq.2 hname, _, _, hsplit, fun b hb => by simpa using hfirst b hb⟩

namespace TableSchema

/-! ## Declaring columns -/

/-- One declaration: a column as it is to be, or the name of a column of plain strings. -/
inductive Declaration where
  | column (c : Column)
  | strings (name : String)

/-- The column that is declared. -/
def Declaration.declared : Declaration → Column
  | column c => c
  | strings name => .ofStrings name

/-- The table with the columns that are declared, in this order. -/
def declare (tableName : String) (ds : List Declaration) : TableSchema :=
  ds.foldl (fun s d => s.addColumn d.declared) (ofColumns tableName [])

/-- Declarations add their columns behind those that are there. -/
theorem foldl_addColumn (s : TableSchema) (ds : List Declaration) :
    ds.foldl (fun s d => s.addColumn d.declared) s =
      ofColumns s.tableName (s.columns ++ ds.map Declaration.declared) := by
  induction ds generalizing s with
  | nil => exact ext_iff.2 ⟨rfl, (List.append_nil _).symm⟩
  | cons d ds ih =>
    rw [List.foldl_cons, ih, List.map_cons, List.append_cons]
    rfl

theorem declare_eq (tableName : String) (ds : List Declaration) :
    declare tableName ds = ofColumns tableName (ds.map Declaration.declared) :=
  foldl_addColumn _ ds

end TableSchema

/-! ## Reading a schema -/

/-- The document gives a table this name and these columns, in this order.  Nothing else that it
says counts. -/
def JsonValue.GivesTable (v : JsonValue) (tableName : String) (columns : List Column) : Prop :=
  ∃ room name? columns?,
    members ["table_name", "columns"] depthLimit v = some (room, [name?, columns?]) ∧
      field decode room name? = some tableName ∧ field decode room columns? = some columns

namespace TableSchema

/-- A schema is read as the name and the columns that the document gives; its index is made anew. -/
theorem decode_eq_some_iff {v : JsonValue} {s : TableSchema} :
    decode depthLimit v = some s ↔
      ∃ tableName columns, v.GivesTable tableName columns ∧ s = ofColumns tableName columns := by
  constructor
  · intro h
    obtain ⟨⟨room, given⟩, hgiven, h⟩ := Option.bind_eq_some_iff.1 h
    -- the members that were asked for are two, and no other number of them is read
    rcases given with _ | ⟨name?, _ | ⟨columns?, _ | ⟨_, _⟩⟩⟩
    · cases h
    · cases h
    · obtain ⟨tableName, hname, h⟩ := Option.bind_eq_some_iff.1 h
      obtain ⟨columns, hcolumns, h⟩ := Option.bind_eq_some_iff.1 h
      exact ⟨tableName, columns, ⟨room, name?, columns?, hgiven, hname, hcolumns⟩,
        (Option.some.inj h).symm⟩
    · cases h
  · rintro ⟨tableName, columns, ⟨room, name?, columns?, hgiven, hname, hcolumns⟩, rfl⟩
    refine Option.bind_eq_some_iff.2 ⟨_, hgiven, ?_⟩
    refine Option.bind_eq_some_iff.2 ⟨_, hname, ?_⟩
    exact Option.bind_eq_some_iff.2 ⟨_, hcolumns, rfl⟩

/-! ## What a schema answers -/

/-- The schema stands for the table of this name with these columns, and answers as if it went
through them from the first to the last. -/
structure Represents (s : TableSchema) (tableName : String) (columns : List Column) : Prop where
  tableName_eq : s.tableName = tableName
  columns_eq : s.columns = columns
  /-- A name is looked up as the first column that has it, letter case aside. -/
  column_eq_iff : ∀ name answer, s.column name = answer ↔ FirstNamed columns name answer
  /-- No place in the index is beyond the last column. -/
  index_lt : ∀ (key : String) (i : Nat), s.index[key]? = some i → i < columns.length
  /-- For the table itself, its name in any letter case, the answer is the same. -/
  resolve_of_eq : ∀ table name, lowercase tableName = lowercase table.name →
    s.resolve table name = s.column name
  /-- For another table there is none. -/
  resolve_of_ne : ∀ table name, lowercase tableName ≠ lowercase table.name →
    s.resolve table name = none

/-- Indexing the columns makes a schema that stands for them. -/
theorem represents_ofColumns (tableName : String) (columns : List Column) :
    (ofColumns tableName columns).Represents tableName columns where
  tableName_eq := rfl
  columns_eq := rfl
  column_eq_iff name answer := by
    rw [column_eq_find?]
    exact find?_eq_iff_firstNamed
  index_lt key i h := by
    rw [(ofColumns tableName columns).index_eq, getElem?_nameIndex] at h
    exact (List.findIdx?_eq_some_iff_getElem.1 h).1
  resolve_of_eq table name h := by
    rw [resolve]
    exact if_pos h
  resolve_of_ne table name h := by
    rw [resolve]
    exact if_neg h

/-- A schema is the one that its columns make. -/
theorem eq_ofColumns (s : TableSchema) : s = ofColumns s.tableName s.columns :=
  ext_iff.2 ⟨rfl, rfl⟩

/-- Only one schema stands for given columns. -/
theorem Represents.eq_ofColumns {s : TableSchema} {tableName : String} {columns : List Column}
    (h : s.Represents tableName columns) : s = ofColumns tableName columns :=
  ext_iff.2 ⟨h.tableName_eq, h.columns_eq⟩

/-- **However a schema comes about, it finds the first declaration of a name.**  Every schema stands
for its own columns.  Declarations make one that stands for the declared columns in their order, and
a text is read as a schema exactly if it is a document that gives a table; the schema then stands
for the columns that the document gives. -/
theorem represents_exact :
    (∀ s : TableSchema, s.Represents s.tableName s.columns) ∧
    (∀ tableName (ds : List Declaration),
      (declare tableName ds).Represents tableName (ds.map Declaration.declared)) ∧
    ∀ (text : String) (s : TableSchema), read? text = some s ↔
      ∃ v tableName columns, JsonValue.parse? text = some v ∧ v.GivesTable tableName columns ∧
        s.Represents tableName columns := by
  refine ⟨?_, ?_, ?_⟩
  · intro s
    rw [eq_ofColumns s]
    exact represents_ofColumns s.tableName s.columns
  · intro tableName ds
    rw [declare_eq]
    exact represents_ofColumns tableName _
  · intro text s
    rw [read?, Option.bind_eq_some_iff]
    constructor
    · rintro ⟨v, hparse, hdecode⟩
      obtain ⟨tableName, columns, hgives, rfl⟩ := decode_eq_some_iff.1 hdecode
      exact ⟨v, tableName, columns, hparse, hgives, represents_ofColumns tableName columns⟩
    · rintro ⟨v, tableName, columns, hparse, hgives, hs⟩
      exact ⟨v, hparse, decode_eq_some_iff.2 ⟨tableName, columns, hgives, hs.eq_ofColumns⟩⟩

/-- A name is declared in two spellings and asked for in a third.  The first column is found,
whether the columns are declared or read, and whatever the document says of an index. -/
theorem represents_exact_of_spellings :
    let first : Column := ⟨"ÄRGER", .int, []⟩
    let declared := declare "Orders" [.column first, .strings "ärger"]
    let text := "\x7b\"by_name\":\x7b\"ärger\":1\x7d,\"columns\":[" ++
      "\x7b\"name\":\"ÄRGER\",\"data_type\":\"int\"\x7d," ++
      "\x7b\"name\":\"ärger\",\"data_type\":\"string\"\x7d],\"table_name\":\"Orders\"\x7d"
    declared.resolve ⟨"ORDERS", ⟨"/t"⟩⟩ "Ärger" = some first ∧
      ∃ s : TableSchema, read? text = some s ∧ s.column "Ärger" = some first := by
  intro first declared text
  have hfirst : FirstNamed [first, .ofStrings "ärger"] "Ärger" (some first) :=
    find?_eq_iff_firstNamed.1 (by decide +kernel)
  constructor
  · have hdeclared := represents_exact.2.1 "Orders" [.column first, .strings "ärger"]
    rw [hdeclared.resolve_of_eq _ _ (by decide +kernel)]
    exact (hdeclared.column_eq_iff _ _).2 hfirst
  · have hread : ((read? text : Option TableSchema).map TableSchema.columns) =
        some [first, .ofStrings "ärger"] := by
      decide +kernel
    obtain ⟨s, hs, hcolumns⟩ := Option.map_eq_some_iff.1 hread
    obtain ⟨v, tableName, columns, -, -, hrepresents⟩ := (represents_exact.2.2 text s).1 hs
    refine ⟨s, hs, (hrepresents.column_eq_iff _ _).2 ?_⟩
    rwa [← hrepresents.columns_eq, hcolumns]

end TableSchema
end IndexShards
