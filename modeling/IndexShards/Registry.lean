import IndexShards.Definition
import IndexShards.Error
import IndexShards.Schema.Table

/-!
# The indexes of each table

A table may have several indexes side by side, each under its own name.  Hosts that keep them
elsewhere give a `RegistrySource`; `Registry` is one that is kept in memory.  It knows a table by
its name and the parts of its path, and forgets a table that has no index any more.

## What is here

* `RegistrySource ω` — the indexes of a table, as far as the state `ω` of the host tells.
* `Registry` — the indexes of each table in the order of their registration.
* `Registry.registerIn`, `Registry.unregister`, `Registry.indexesOf`, `Registry.indexCount` — its
  operations; `Registry.register` is for hosts that keep what they had when a registration fails.
-/

set_option autoImplicit false

namespace IndexShards

open Std

/-- Tells the indexes of a table, or fails to. -/
abbrev RegistrySource (ω : Type) := ω → TableId → Except Error (List Registration)

/-- The indexes of each table. -/
structure Registry where
  tables : ExtTreeMap TableId (List Registration) TableId.cmp

namespace Registry

/-- The registry without indexes. -/
def empty : Registry := ⟨∅⟩

/-- The indexes of a table, in the order of their registration. -/
def indexesOf (r : Registry) (table : TableId) : List Registration := r.tables[table]?.getD []

/-- The number of indexes of a table. -/
def indexCount (r : Registry) (table : TableId) : Nat := (r.tables[table]?.map List.length).getD 0

/-- The registry with a list for the table, an empty one if there was none. -/
def opened (r : Registry) (table : TableId) : Registry := ⟨r.tables.insertIfNew table []⟩

/-- Registers an index.  The list of the table is opened before it is looked at, and stays open
whatever comes of it.  A table has one index of a name only. -/
def registerIn (r : Registry) (table : TableId) (index : Registration) :
    Except Error Unit × Registry :=
  let r := r.opened table
  let indexes := r.indexesOf table
  if indexes.any fun i => i.indexName == index.indexName then
    (.error (.invalidArgument (.indexExists index.indexName table.name)), r)
  else (.ok (), ⟨r.tables.insert table (indexes ++ [index])⟩)

/-- The registry with an index more, if it can be registered. -/
def register (r : Registry) (table : TableId) (index : Registration) : Except Error Registry :=
  let (answer, r) := r.registerIn table index
  answer.map fun _ => r

/-- The registry without an index of a table.  The answer says whether it was there. -/
def unregister (r : Registry) (table : TableId) (indexName : String) : Bool × Registry :=
  match r.tables[table]? with
  | none => (false, r)
  | some indexes =>
    let rest := indexes.filter fun i => i.indexName != indexName
    (rest.length != indexes.length,
      ⟨if rest.isEmpty then r.tables.erase table else r.tables.insert table rest⟩)

end Registry
end IndexShards
