import IndexShards.Error

/-!
# What the library asks of a file system

Index shards are directories.  All that is done with them is to see whether a path is there, to
list what is directly below it and to delete it with everything below.  A file system is those
three operations over some state; looking does not change the state, and deleting may change it
even if it fails.

## What is here

* `Entry` — a path in a listing, and whether it is a directory.
* `FileSystem ω` — the three operations over a state `ω`.
* `FileSystem.listDirectories` — the directories directly below a path.
* `FileSystem.ofPart` — the same file system as a part of a larger state.
* `FileSystem.vacant` — a file system in which there is nothing.
* `Refusals`, `FileSystem.refusing` — the same file system, refusing some calls without effect.
-/

set_option autoImplicit false

namespace IndexShards

/-! ## Entries -/

/-- A path at which something is, and whether it is a directory. -/
structure Entry where
  path : Path
  isDir : Bool
deriving DecidableEq

/-- The last part of the path, or nothing if it is not a name. -/
def Entry.name (e : Entry) : String := e.path.fileName?.getD ""

/-! ## File systems -/

/-- A file system whose state is `ω`. -/
structure FileSystem (ω : Type) where
  /-- Whether something is at the path. -/
  contains : ω → Path → Except Error Bool
  /-- What is directly below the path and accepted; nothing if the path is missing. -/
  list : ω → Path → (Entry → Bool) → Except Error (List Entry)
  /-- Removes the path and everything below it; a missing path is removed already. -/
  delete : ω → Path → Except Error Unit × ω

namespace FileSystem

variable {ω α : Type}

/-- The directories directly below the path. -/
def listDirectories (fs : FileSystem ω) (w : ω) (path : Path) : Except Error (List Entry) :=
  fs.list w path fun e => e.isDir

/-- The file system as a part of a larger state, which `part` reads and `put` replaces. -/
def ofPart (fs : FileSystem α) (part : ω → α) (put : α → ω → ω) : FileSystem ω where
  contains w path := fs.contains (part w) path
  list w path accept := fs.list (part w) path accept
  delete w path :=
    let (answer, a) := fs.delete (part w) path
    (answer, put a w)

/-- A file system in which there is nothing. -/
def vacant : FileSystem ω where
  contains _ _ := .ok false
  list _ _ _ := .ok []
  delete w _ := (.ok (), w)

end FileSystem

/-! ## Refusing calls -/

/-- The calls that are refused, each kind by path, and why. -/
structure Refusals where
  contains : Path → Option Error := fun _ => none
  list : Path → Option Error := fun _ => none
  delete : Path → Option Error := fun _ => none

/-- The same file system, except that the calls that are refused in the state at hand fail and
change nothing. -/
def FileSystem.refusing {ω : Type} (fs : FileSystem ω) (r : ω → Refusals) : FileSystem ω where
  contains w path := match (r w).contains path with
    | some e => .error e
    | none => fs.contains w path
  list w path accept := match (r w).list path with
    | some e => .error e
    | none => fs.list w path accept
  delete w path := match (r w).delete path with
    | some e => (.error e, w)
    | none => fs.delete w path

end IndexShards
