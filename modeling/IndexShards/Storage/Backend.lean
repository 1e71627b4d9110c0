import IndexShards.Storage.Disk
import IndexShards.Storage.Tree

/-!
# Choosing where index data lives

Index data lives on the local disk, or in a tree in memory for hosts that keep their indexes off
disk.  The configuration names one of the two.

## What is here

* `StorageKind` — the choice; the local disk unless something else is said.
* `Backend` — the state of either kind, and `Backend.fileSystem`, the operations on it.
* `StorageKind.start` — the backend that a kind starts with.
* `Backend.createDir`, `Backend.createFile` — creation on either kind.
-/

set_option autoImplicit false

namespace IndexShards

/-- Where index data lives. -/
inductive StorageKind where
  /-- On the local disk. -/
  | disk
  /-- In a tree in memory. -/
  | memory
deriving DecidableEq

namespace StorageKind

/-- All kinds, in order. -/
def all : List StorageKind := [disk, memory]

/-- The name by which a kind is stored. -/
def key : StorageKind → String
  | disk => "local"
  | memory => "memory"

instance : Inhabited StorageKind := ⟨disk⟩

theorem mem_all (k : StorageKind) : k ∈ all := by cases k <;> decide

end StorageKind

/-- The state of a disk or of a tree in memory. -/
inductive Backend where
  | disk (d : Disk)
  | memory (t : Tree)

/-- What a kind starts with: the disk as it is, or a new tree. -/
def StorageKind.start (k : StorageKind) (d : Disk) : Backend :=
  match k with
  | disk => .disk d
  | memory => .memory .empty

/-- The operations on a disk or on a tree. -/
def Backend.fileSystem : FileSystem Backend where
  contains
    | .disk d, path => Disk.fileSystem.contains d path
    | .memory t, path => Tree.fileSystem.contains t path
  list
    | .disk d, path, accept => Disk.fileSystem.list d path accept
    | .memory t, path, accept => Tree.fileSystem.list t path accept
  delete
    | .disk d, path =>
      let (answer, d) := Disk.fileSystem.delete d path
      (answer, .disk d)
    | .memory t, path =>
      let (answer, t) := Tree.fileSystem.delete t path
      (answer, .memory t)

/-- Creates a directory, and the directories above it that are missing. -/
def Backend.createDir : Backend → Path → Except Error Unit × Backend
  | .disk d, path =>
    let (answer, d) := d.createDir path
    (answer.mapError .io, .disk d)
  | .memory t, path =>
    let (answer, t) := t.createDir path
    (answer, .memory t)

/-- Creates an empty file, and the directories above it that are missing. -/
def Backend.createFile : Backend → Path → Except Error Unit × Backend
  | .disk d, path =>
    let (answer, d) := d.createFile path
    (answer.mapError .io, .disk d)
  | .memory t, path =>
    let (answer, t) := t.createFile path
    (answer, .memory t)

end IndexShards
