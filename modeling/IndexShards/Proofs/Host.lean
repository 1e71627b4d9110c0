import IndexShards.Proofs.Initialize
import IndexShards.Proofs.Tree.Listing

/-!
# Hosts that keep their segments in a tree

The operations of a manager run over the state of a host.  Here the host keeps its segments in a
tree of directories, and whatever else it knows beside it: its registry of indexes, for one, and
which calls on the tree are refused at the moment.  No operation of a manager changes that rest.

## What is here

* `Host α` — a tree, and the rest of the state.
* `Host.storage`, `Host.indexes` — the tree as the file system of the host, and a registry that the
  host keeps, for as long as it can be read.
* `Host.listingError?` — why a directory cannot be listed.  `listDirectories_storage` says what is
  listed if it can.
* `Host.manager` — a manager over all this, for hosts without an engine; it can be made
  (`initialized_manager`).
-/

set_option autoImplicit false

namespace IndexShards

/-- A host that keeps its segments in a tree: the tree, and the rest of the state. -/
structure Host (α : Type) where
  tree : Tree
  rest : α

/-- The directories directly below `d`, if `d` is a directory itself. -/
def Tree.directoriesIn (t : Tree) (d : Path) : List Entry :=
  if t.kind? d = some true then t.entries.filter fun e => decide (e.path.IsChildOf d) && e.isDir
  else []

namespace Host

variable {α : Type}

/-- The tree as the file system of the host, where `refusals` tells which calls are refused. -/
def storage (refusals : α → Refusals) : FileSystem (Host α) :=
  (Tree.fileSystem.ofPart Host.tree fun t w => { w with tree := t }).refusing fun w =>
    refusals w.rest

/-- The registry of the host, as long as it can be read. -/
def indexes (registry : α → Except Error Registry) : RegistrySource (Host α) := fun w table =>
  (registry w.rest).map fun r => r.indexesOf table

theorem contains_storage (refusals : α → Refusals) (w : Host α) (p : Path) :
    (storage refusals).contains w p = match (refusals w.rest).contains p with
      | some e => .error e
      | none => .ok (w.tree.contains p) := rfl

theorem delete_storage (refusals : α → Refusals) (w : Host α) (p : Path) :
    (storage refusals).delete w p = match (refusals w.rest).delete p with
      | some e => (.error e, w)
      | none => (.ok (), { w with tree := w.tree.delete p }) := rfl

theorem list_storage (refusals : α → Refusals) (w : Host α) (p : Path) (accept : Entry → Bool) :
    (storage refusals).list w p accept = match (refusals w.rest).list p with
      | some e => .error e
      | none => w.tree.list p accept := rfl

/-- Why the directory cannot be listed: the call is refused, or a file is in its place. -/
def listingError? (refusals : α → Refusals) (w : Host α) (d : Path) : Option Error :=
  match (refusals w.rest).list d with
  | some e => some e
  | none => if w.tree.kind? d = some false then some (.storage (.notDirectory d)) else none

/-- A directory that can be listed shows the directories below it, and a missing one none. -/
theorem listDirectories_storage (refusals : α → Refusals) (w : Host α) (d : Path) :
    (storage refusals).listDirectories w d = match w.listingError? refusals d with
      | some e => .error e
      | none => .ok (w.tree.directoriesIn d) := by
  rw [FileSystem.listDirectories, list_storage, listingError?, Tree.directoriesIn]
  cases (refusals w.rest).list d with
  | some e => rfl
  | none =>
    rw [Tree.list_eq]
    cases hk : w.tree.kind? d with
    | none => simp
    | some b => cases b <;> simp

/-- The manager of an index over the tree and the registry of the host, which always knows the
valid segments and has no engine. -/
def manager (table : TableId) (indexName : String) (segments : List SegmentId)
    (refusals : α → Refusals) (registry : α → Except Error Registry) : Manager (Host α) :=
  { Manager.bare table indexName ["text"] .absent with
    storage := storage refusals
    status := fun _ _ => .ok segments
    registry := indexes registry }

/-- It is one that can be made, over a catalog that knows every column as one of strings. -/
theorem initialized_manager {table : TableId} {indexName : String} {segments : List SegmentId}
    {refusals : α → Refusals} {registry : α → Except Error Registry}
    (h : Text.isBlankText indexName = false) :
    (manager table indexName segments refusals registry).Initialized := by
  let m := manager table indexName segments refusals registry
  let catalog : SchemaLookup := fun _ name => some (.ofStrings name)
  let definition := { indexName := indexName : Definition }.withProperty textColumnsKey "text"
  have hcolumns : validateColumns textColumnsKey definition.properties table catalog =
      .ok ["text"] := by
    refine validateColumns_eq_ok_iff.2 ⟨"text", by simp [definition, Definition.withProperty], ?_⟩
    refine ⟨by decide +kernel, by decide +kernel, by decide, by decide, fun c _ => ?_⟩
    exact ⟨.ofStrings c, rfl, rfl⟩
  exact ⟨m.services catalog, table, definition, m.exists_initialize_services rfl h hcolumns⟩

end Host
end IndexShards
