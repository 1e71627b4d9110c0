import IndexShards.Storage.Disk.Nodes
import IndexShards.Storage.FileSystem

/-!
# The local disk as a file system

Looking at a path follows links, deleting does not: a link is removed and its target stays.  What
is missing is no failure, but a path that leads through a file is one, and so is one that the
system cannot follow.  Listings show the names of a directory in order, below the path that was
asked for, and a link in them is never a directory.

Deleting a directory first empties it and then removes it.  The removal can fail where the path
does not end in the name of the directory, and then the directory stays behind, empty.  It stays
behind without a failure where the path leads through a link that was in it.

## What is here

* `Disk.contains`, `Disk.list`, `Disk.delete` — the operations; `Disk.fileSystem` puts them
  together.
* `Disk.createDir`, `Disk.createFile` — creation, with the directories above that are missing.
* `Disk.createLink` — the creation of a link alone.
-/

set_option autoImplicit false

namespace IndexShards
namespace Disk

open Std

/-! ## Looking -/

/-- Something is at the path. -/
def contains (d : Disk) (path : Path) : Except SystemError Bool :=
  match d.nodeAt .target path.text with
  | .ok _ => .ok true
  | .error .notFound => .ok false
  | .error e => .error e

/-- The entries of the directory at `l`, below `path`, in the order of their names. -/
def children (d : Disk) (l : Location) (path : Path) : List Entry :=
  d.nodes.toList.filterMap fun (k, n) =>
    match k.getLast? with
    | some name => if k.dropLast = l then some ⟨path.join name, n == .dir⟩ else none
    | none => none

/-- The accepted entries directly below the path. -/
def list (d : Disk) (path : Path) (accept : Entry → Bool) : Except SystemError (List Entry) :=
  match d.nodeAt .target path.text with
  | .ok (l, .dir) => .ok ((d.children l path).filter accept)
  | .ok _ => .error .notDirectory
  | .error .notFound => .ok []
  | .error e => .error e

/-! ## Deleting -/

/-- Without anything below the place. -/
def emptied (d : Disk) (l : Location) : Disk :=
  { d with nodes := d.nodes.filter fun k _ => k = l || !l.isPrefixOf k }

/-- Without the place itself. -/
def without (d : Disk) (l : Location) : Disk := { d with nodes := d.nodes.erase l }

/-- The text without the slashes it ends in. -/
def withoutSlashes (path : String) : String :=
  String.ofList (path.toList.reverse.dropWhile (· == '/')).reverse

/-- Removes the directory at the path, which is empty and has to end in its name. -/
def removeDir (d : Disk) (path : String) : Except SystemError Disk := do
  let bare := withoutSlashes path
  match (stepsOf bare.toList).getLast? with
  | some (.into _) =>
    match ← d.nodeAt .place bare with
    | (l, .dir) => .ok (d.without l)
    | _ => .error .notDirectory
  | some .up =>
    let _ ← d.spotOf .place bare
    .error .notEmpty
  | some _ =>
    let _ ← d.spotOf .place bare
    .error .invalid
  | none => .error .busy

/-- Removes what is at the path and everything below it.  The path of a directory is followed
again when the directory is empty, and by then a link on the way can be gone, which is no
failure. -/
def delete (d : Disk) (path : Path) : Except SystemError Unit × Disk :=
  match d.nodeAt .place path.text with
  | .ok (l, .dir) =>
    let d := d.emptied l
    match d.removeDir path.text with
    | .ok d => (.ok (), d)
    | .error .notFound => (.ok (), d)
    | .error e => (.error e, d)
  | .ok (l, _) => (.ok (), d.without l)
  | .error .notFound => (.ok (), d)
  | .error e => (.error e, d)

/-- The disk as a file system. -/
def fileSystem : FileSystem Disk where
  contains d path := (d.contains path).mapError .io
  list d path accept := (d.list path accept).mapError .io
  delete d path :=
    let (answer, d) := d.delete path
    (answer.mapError .io, d)

/-! ## Creating -/

/-- The disk with a node more. -/
def put (d : Disk) (l : Location) (n : Node) : Disk := { d with nodes := d.nodes.insert l n }

/-- Puts a node where the path leads, in a directory that is there.  Nothing may be there, not even
a link, and a slash may end the path of a directory only. -/
def putNew (d : Disk) (path : String) (n : Node) : Except SystemError Disk := do
  checkText path
  let bare := withoutSlashes path
  if bare = "" then .error .alreadyExists
  else
    let s ← d.spotOf .place bare
    if s.taken then .error .alreadyExists
    else if n = .dir ∨ bare = path then .ok (d.put s.location n)
    else .error .notFound

/-- Makes one directory unless it is there. -/
def ensureDir (d : Disk) (path : Path) : Except SystemError Unit × Disk :=
  match d.putNew path.text .dir with
  | .ok d => (.ok (), d)
  | .error e => if d.isDir path.text then (.ok (), d) else (.error e, d)

/-- Makes the first of the directories, which stand one above the other, the lowest first, and of
the others those that it needs. -/
def ensureDirs : List Path → Disk → Except SystemError Unit × Disk
  | [], d => (.error (.other "failed to create whole tree"), d)
  | p :: ps, d =>
    if p.isEmpty then (.ok (), d)
    else match d.ensureDir p with
      | (.error .notFound, d) =>
        match ensureDirs ps d with
        | (.ok (), d) => d.ensureDir p
        | failed => failed
      | done => done

/-- Creates a directory, and the directories above it that are missing. -/
def createDir (d : Disk) (path : Path) : Except SystemError Unit × Disk :=
  ensureDirs (path :: path.ancestors) d

/-- Creates the directories above the path that are missing. -/
def createParents (d : Disk) (path : Path) : Except SystemError Unit × Disk :=
  match path.ancestors with
  | [] => (.ok (), d)
  | ps => ensureDirs ps d

/-- Makes an empty file in a directory that is there, through a link if need be; a file that is
there is emptied. -/
def makeFile (d : Disk) (path : Path) : Except SystemError Disk := do
  let s ← d.spotOf .file path.text
  if !s.taken then .ok (d.put s.location .file)
  else if d.node? s.location = some .dir then .error .isDirectory
  else .ok d

/-- Creates an empty file, and the directories above it that are missing. -/
def createFile (d : Disk) (path : Path) : Except SystemError Unit × Disk :=
  match d.createParents path with
  | (.ok (), d) =>
    match d.makeFile path with
    | .ok d => (.ok (), d)
    | .error e => (.error e, d)
  | failed => failed

/-- Creates a symbolic link with this target, in a directory that is there. -/
def createLink (d : Disk) (path : Path) (target : String) : Except SystemError Disk := do
  if path.text.toList.contains '\x00' then .error .unexpectedNul
  else
    checkText target
    d.putNew path.text (.link target)

end Disk
end IndexShards
