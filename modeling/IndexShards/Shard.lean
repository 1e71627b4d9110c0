import IndexShards.Definition
import IndexShards.Log
import IndexShards.Registry
import IndexShards.Segment.Layout
import IndexShards.Storage.FileSystem
import Std.Data.ExtTreeSet

/-!
# Finding shards and making probe tasks of them

Every parallel write task of a segment leaves one shard, a directory below the directory of its
index.  A query first asks a coarse index for the names of the shards that may hold a match.  The
shards of a segment are then looked up, over all text indexes of the table, and each one that was
named becomes a task that can be sent to another machine.

Planning goes on with what it can see: an index whose shards cannot be listed has none, and if the
registry fails there are none at all.  Either is reported.

## What is here

* `Shard`, `ProbeTask` — a shard on the file system, and the task of probing one.
* `ShardFilter` — the names that survived the coarse pass.
* `locateIndex`, `locateShards` — the shards of one index, and of all text indexes of a table.
* `probeTasks` — the tasks for those shards that the filter names.
-/

set_option autoImplicit false

namespace IndexShards

open Std

/-! ## Shards and tasks -/

/-- A shard of an index, as it was found. -/
structure Shard where
  indexName : String
  shardName : String
  path : Path
deriving DecidableEq

/-- The task of probing one shard of a segment. -/
structure ProbeTask where
  segmentPath : Path
  shardPath : Path
deriving DecidableEq

/-- The name of the shard, if its path ends in one. -/
def ProbeTask.shardName? (t : ProbeTask) : Option String := t.shardPath.fileName?

/-! ## Filters -/

/-- The names of the shards that survived the coarse pass. -/
structure ShardFilter where
  names : ExtTreeSet String
deriving DecidableEq

namespace ShardFilter

/-- The filter that names no shard. -/
def empty : ShardFilter := ⟨∅⟩

/-- The filter that names these shards. -/
def ofList (names : List String) : ShardFilter := ⟨.ofList names⟩

/-- The filter names the shard. -/
def contains (f : ShardFilter) (name : String) : Bool := f.names.contains name

/-- The filter with a name more.  The answer says whether it is new. -/
def insert (f : ShardFilter) (name : String) : Bool × ShardFilter :=
  (!f.contains name, ⟨f.names.insert name⟩)

/-- The number of names. -/
def size (f : ShardFilter) : Nat := f.names.size

/-- The filter names no shard. -/
def isEmpty (f : ShardFilter) : Bool := f.names.isEmpty

theorem contains_iff {f : ShardFilter} {name : String} :
    f.contains name = true ↔ name ∈ f.names :=
  ExtTreeSet.contains_iff_mem

end ShardFilter

/-! ## Looking shards up -/

variable {ω : Type}

/-- The shards that an index has in a segment: the directories directly below its own. -/
def locateIndex (table : TableId) (fs : FileSystem ω) (segment : SegmentId) (w : ω)
    (index : Registration) : Noted (List Shard) :=
  let dir := indexPath table segment index.indexName
  match fs.listDirectories w dir with
  | .ok entries => ⟨entries.map fun e => ⟨index.indexName, e.name, e.path⟩, []⟩
  | .error e =>
    ⟨[], [⟨.warn, "skipping shards of index " ++ index.indexName ++ " in segment " ++
      segment.text ++ ": failed to list " ++ dir.text ++ ": " ++ e.message⟩]⟩

/-- The shards that the text indexes of a table have in a segment. -/
def locateShards (table : TableId) (fs : FileSystem ω) (registry : RegistrySource ω)
    (segment : SegmentId) (w : ω) : Noted (List Shard) :=
  match registry w table with
  | .error e =>
    ⟨[], [⟨.error, "failed to look up indexes of table " ++ table.name ++ ": " ++ e.message⟩]⟩
  | .ok indexes =>
    let found := (indexes.filter Registration.isText).map (locateIndex table fs segment w)
    ⟨found.flatMap Noted.value, found.flatMap Noted.log⟩

/-! ## Making tasks -/

/-- The tasks of a segment for those of the shards that the filter names. -/
def probeTasks (table : TableId) (segment : SegmentId) (shards : List Shard)
    (filter : ShardFilter) : List ProbeTask :=
  (shards.filter fun s => filter.contains s.shardName).map fun s =>
    ⟨segmentPath table segment, s.path⟩

end IndexShards
