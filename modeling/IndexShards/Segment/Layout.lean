import IndexShards.Schema.Table

/-!
# Where the data of a segment lives

The host writes the data of a table in segments.  Each has a directory below the one of its table,
and in it each index has a directory of its own, which holds one directory for every shard:

`<table>/<segment>/<index>/<shard>/…`

## What is here

* `SegmentId`, `Segment` — a segment of a table.
* `segmentPath`, `indexPath` — the directories of a segment, and of an index in it.
-/

set_option autoImplicit false

namespace IndexShards

/-- The name of a segment within its table. -/
structure SegmentId where
  text : String
deriving DecidableEq

/-- A unit of written table data. -/
structure Segment where
  id : SegmentId
deriving DecidableEq

/-- The directory of a segment. -/
def segmentPath (table : TableId) (segment : SegmentId) : Path := table.path.join segment.text

/-- The directory of an index in a segment. -/
def indexPath (table : TableId) (segment : SegmentId) (index : String) : Path :=
  (segmentPath table segment).join index

end IndexShards
