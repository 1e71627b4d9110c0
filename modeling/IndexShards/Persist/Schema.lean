import IndexShards.Persist.Codec
import IndexShards.Schema.Table
import IndexShards.Segment.Layout

/-!
# Storing tables, columns and segments

## What is here

* `Persistent` for `Path`, `TableId`, `DataType`, `Encoding`, `Column`, `TableSchema`, `SegmentId`
  and `Segment`.

A path is stored as its text, and a segment's name likewise.  The encodings of a column may be left
out.  Of a schema only the name and the columns are stored; the index of names follows from them.
-/

set_option autoImplicit false

namespace IndexShards

open Decoder

instance : Persistent Path := ⟨fun p => .text p.text, fun room v => (text room v).map Path.mk⟩

/-- A table is its name and its path. -/
instance : Persistent TableId where
  encode t := .record [("table_name", .text t.name), ("table_path", encode t.path)]
  decode room v := do
    match ← members ["table_name", "table_path"] room v with
    | (room, [name?, path?]) => some ⟨← field decode room name?, ← field decode room path?⟩
    | _ => none

instance : Persistent DataType := ⟨encodeChoice DataType.key, choice DataType.all DataType.key⟩

instance : Persistent Encoding := ⟨encodeChoice Encoding.key, choice Encoding.all Encoding.key⟩

/-- A column is its name, its type and its encodings, which may be left out. -/
instance : Persistent Column where
  encode c := .record
    [("name", .text c.name), ("data_type", encode c.dataType), ("encodings", encode c.encodings)]
  decode room v := do
    match ← members ["name", "data_type", "encodings"] room v with
    | (room, [name?, dataType?, encodings?]) =>
      some ⟨← field decode room name?, ← field decode room dataType?,
        ← fieldOr [] decode room encodings?⟩
    | _ => none

/-- A schema is the name of the table and its columns. -/
instance : Persistent TableSchema where
  encode s := .record [("table_name", .text s.tableName), ("columns", encode s.columns)]
  decode room v := do
    match ← members ["table_name", "columns"] room v with
    | (room, [tableName?, columns?]) =>
      some (.ofColumns (← field decode room tableName?) (← field decode room columns?))
    | _ => none

instance : Persistent SegmentId :=
  ⟨fun s => .text s.text, fun room v => (text room v).map SegmentId.mk⟩

/-- A segment is its name. -/
instance : Persistent Segment where
  encode s := .record [("id", encode s.id)]
  decode room v := do
    match ← members ["id"] room v with
    | (room, [id?]) => some ⟨← field decode room id?⟩
    | _ => none

end IndexShards
