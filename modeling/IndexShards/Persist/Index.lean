import IndexShards.Config
import IndexShards.Persist.Schema
import IndexShards.Shard

/-!
# Storing what belongs to an index

## What is here

* `Persistent` for `ExpressionKind`, `Analyzer`, `StorageKind`, `Config`, `Definition`, `IndexMeta`,
  `Registration` and `ProbeTask`.

The kind of storage is an object that says its `type` and may say more, which is read but not used;
or an array of the type alone.  Every setting of a configuration may be left out, and so may the
properties of a definition.
-/

set_option autoImplicit false

namespace IndexShards

open Std Decoder

instance : Persistent ExpressionKind :=
  ⟨encodeChoice ExpressionKind.key, choice ExpressionKind.all ExpressionKind.key⟩

instance : Persistent Analyzer := ⟨encodeChoice Analyzer.key, choice Analyzer.all Analyzer.key⟩

/-! ## Storage -/

/-- The value can be read in full: every string has a text, every number is within the doubles,
and no array or object lies too deep. -/
def isReadable : Nat → JsonValue → Bool
  | _, .null => true
  | _, .bool _ => true
  | room, .number t => (double room (.number t)).isSome
  | _, .string text? => text?.isSome
  | 0, .array _ => false
  | room + 1, .array items => items.all (isReadable room)
  | 0, .object _ => false
  | room + 1, .object fields => fields.all fun f => f.1.isSome && isReadable room f.2

/-- The kind of storage with this name. -/
def storageNamed? : JsonValue → Option StorageKind
  | .string (some s) => StorageKind.all.find? fun k => k.key == s
  | _ => none

/-- A kind of storage from an object with a `type`. -/
def decodeStorage : Decoder StorageKind
  | room + 1, .object fields => do
    let named ← namedFields fields
    let type ← (← only? named "type")
    let kind ← storageNamed? type
    if (named.filter fun f => f.1 != "type").all fun f => isReadable room f.2 then some kind
    else none
  | _ + 1, .array [type] => storageNamed? type
  | _, _ => none

instance : Persistent StorageKind :=
  ⟨fun k => .record [("type", .text k.key)], decodeStorage⟩

/-! ## Settings and definitions -/

/-- A configuration is its settings, each of which may be left out. -/
instance : Persistent Config where
  encode c := .record
    [("property_key", .text c.propertyKey), ("analyzer", encode c.analyzer),
      ("storage", encode c.storage)]
  decode room v := do
    match ← members ["property_key", "analyzer", "storage"] room v with
    | (room, [propertyKey?, analyzer?, storage?]) =>
      some ⟨← fieldOr textColumnsKey decode room propertyKey?,
        ← fieldOr .standard decode room analyzer?, ← fieldOr .disk decode room storage?⟩
    | _ => none

/-- A definition is the name of the index and its properties, which may be left out. -/
instance : Persistent Definition where
  encode d := .record [("index_name", .text d.indexName), ("properties", encode d.properties)]
  decode room v := do
    match ← members ["index_name", "properties"] room v with
    | (room, [indexName?, properties?]) =>
      some ⟨← field decode room indexName?, ← fieldOr ∅ decode room properties?⟩
    | _ => none

/-- A description is the name of the index, its columns and the predicates it speeds up. -/
instance : Persistent IndexMeta where
  encode m := .record
    [("index_name", .text m.indexName), ("indexed_columns", encode m.indexedColumns),
      ("optimized_operations", encode m.optimizedOperations)]
  decode room v := do
    match ← members ["index_name", "indexed_columns", "optimized_operations"] room v with
    | (room, [indexName?, columns?, operations?]) =>
      some ⟨← field decode room indexName?, ← field decode room columns?,
        ← field decode room operations?⟩
    | _ => none

/-- A registration is the name of the index and its provider. -/
instance : Persistent Registration where
  encode r := .record [("index_name", .text r.indexName), ("provider", .text r.provider)]
  decode room v := do
    match ← members ["index_name", "provider"] room v with
    | (room, [indexName?, provider?]) =>
      some ⟨← field decode room indexName?, ← field decode room provider?⟩
    | _ => none

/-- A task is the paths of the segment and of the shard. -/
instance : Persistent ProbeTask where
  encode t := .record [("segment_path", encode t.segmentPath), ("shard_path", encode t.shardPath)]
  decode room v := do
    match ← members ["segment_path", "shard_path"] room v with
    | (room, [segmentPath?, shardPath?]) =>
      some ⟨← field decode room segmentPath?, ← field decode room shardPath?⟩
    | _ => none

end IndexShards
