import IndexShards.Path.Order
import IndexShards.Storage.FileSystem

/-!
# A tree of directories in memory

A tree is its entries in path order, no two of them at equivalent paths.  An entry keeps the path
it was first created with, however it is spelled later.  Creating an entry creates the directories
above it that are missing, from the nearest one up; a file on the way up stops the creation, and
the directories below that file have been created by then.

## What is here

* `Tree` — the entries, with their order as a part of the type.
* `Tree.find?`, `Tree.kind?` — the entry at a path, and whether it is a directory.
* `Tree.put`, `kind?_put` — an entry more, and what this changes: the kind at one path.
* `Tree.createDir`, `Tree.createFile` — creation with all that it needs.
* `Tree.list`, `Tree.delete` — what is directly below a path, read off the stretch of entries that
  starts at it, and the removal of everything at or below a path (`kind?_delete`).
* `Tree.fileSystem` — the tree as a file system.
-/

set_option autoImplicit false

namespace IndexShards

open Std

/-! ## Entries in path order -/

/-- The entries stand in path order. -/
def InOrder (es : List Entry) : Prop := es.Pairwise fun a b => a.path.Before b.path

/-- The entries with one more in its place.  An entry that is at that path already keeps its
spelling and takes the new kind. -/
def insertEntry (e : Entry) : List Entry → List Entry
  | [] => [e]
  | d :: ds =>
    match e.path.cmp d.path with
    | .lt => e :: d :: ds
    | .eq => { d with isDir := e.isDir } :: ds
    | .gt => d :: insertEntry e ds

theorem exists_path_of_mem_insertEntry {e x : Entry} {es : List Entry}
    (h : x ∈ insertEntry e es) : x.path = e.path ∨ ∃ d ∈ es, x.path = d.path := by
  induction es with
  | nil => simp_all [insertEntry]
  | cons d ds ih =>
    rw [insertEntry] at h
    split at h
    · rcases List.mem_cons.1 h with rfl | h
      · exact Or.inl rfl
      · exact Or.inr ⟨x, h, rfl⟩
    · rcases List.mem_cons.1 h with rfl | h
      · exact Or.inr ⟨d, by simp, rfl⟩
      · exact Or.inr ⟨x, by simp [h], rfl⟩
    · rcases List.mem_cons.1 h with rfl | h
      · exact Or.inr ⟨x, by simp, rfl⟩
      · rcases ih h with h | ⟨y, hy, hxy⟩
        · exact Or.inl h
        · exact Or.inr ⟨y, by simp [hy], hxy⟩

theorem inOrder_insertEntry {e : Entry} {es : List Entry} (h : InOrder es) :
    InOrder (insertEntry e es) := by
  induction es with
  | nil => simp [insertEntry, InOrder]
  | cons d ds ih =>
    obtain ⟨hd, hds⟩ := List.pairwise_cons.1 h
    rw [insertEntry]
    split
    · next hlt =>
      refine List.pairwise_cons.2 ⟨fun x hx => ?_, h⟩
      rcases List.mem_cons.1 hx with rfl | hx
      · exact hlt
      · exact Path.Before.trans hlt (hd x hx)
    · exact List.pairwise_cons.2 ⟨fun x hx => hd x hx, hds⟩
    · next hgt =>
      refine List.pairwise_cons.2 ⟨fun x hx => ?_, ih hds⟩
      rcases exists_path_of_mem_insertEntry hx with hxe | ⟨y, hy, hxy⟩
      · rw [hxe]; exact OrientedCmp.lt_of_gt hgt
      · rw [hxy]; exact hd y hy

/-- The entry at a path. -/
def entryAt? (es : List Entry) (p : Path) : Option Entry := es.find? fun e => decide (e.path ≈ p)

theorem entryAt?_insertEntry {e : Entry} {es : List Entry} (h : InOrder es) (q : Path) :
    (entryAt? (insertEntry e es) q).map Entry.isDir =
      if e.path ≈ q then some e.isDir else (entryAt? es q).map Entry.isDir := by
  induction es with
  | nil => by_cases hq : e.path ≈ q <;> simp [insertEntry, entryAt?, hq]
  | cons d ds ih =>
    obtain ⟨hd, hds⟩ := List.pairwise_cons.1 h
    rw [insertEntry]
    split
    · next hlt => by_cases hq : e.path ≈ q <;> simp [entryAt?, hq]
    · next heq =>
      have hed : e.path ≈ d.path := Path.cmp_eq_iff.1 heq
      by_cases hq : e.path ≈ q
      · have hdq : d.path ≈ q := Path.equiv_trans (Path.equiv_symm hed) hq
        simp [entryAt?, hq, hdq]
      · have hdq : ¬d.path ≈ q := fun hdq => hq (Path.equiv_trans hed hdq)
        simp [entryAt?, hq, hdq]
    · next hgt =>
      have ih' := ih hds
      by_cases hdq : d.path ≈ q
      · have heq : ¬e.path ≈ q := fun he => by
          rw [Path.cmp_eq_iff.2 (Path.equiv_trans he (Path.equiv_symm hdq))] at hgt
          cases hgt
        simp [entryAt?, hdq, heq]
      · simpa [entryAt?, hdq] using ih'

/-! ## Trees -/

/-- A tree of directories: its entries, in path order. -/
structure Tree where
  entries : List Entry := []
  inOrder : InOrder entries := by exact List.Pairwise.nil

namespace Tree

/-- The tree without entries. -/
def empty : Tree := {}

/-- The entry at the path. -/
def find? (t : Tree) (p : Path) : Option Entry := entryAt? t.entries p

/-- Whether a directory or a file is at the path, if anything is. -/
def kind? (t : Tree) (p : Path) : Option Bool := (t.find? p).map Entry.isDir

/-- The number of entries, files and directories alike. -/
def size (t : Tree) : Nat := t.entries.length

/-- The tree has no entries. -/
def isEmpty (t : Tree) : Bool := t.entries.isEmpty

/-- The tree with an entry of this kind at the path. -/
def put (t : Tree) (p : Path) (isDir : Bool) : Tree :=
  ⟨insertEntry ⟨p, isDir⟩ t.entries, inOrder_insertEntry t.inOrder⟩

/-- Putting an entry changes the kind at its path and nowhere else. -/
theorem kind?_put (t : Tree) (p q : Path) (isDir : Bool) :
    (t.put p isDir).kind? q = if p ≈ q then some isDir else t.kind? q :=
  entryAt?_insertEntry t.inOrder q

/-! ## Creating -/

/-- Creates the directories that are missing among `ps`, which stand one above the other, the
lowest first.  A file among them ends the creation. -/
def createAncestors : List Path → Tree → Except Error Unit × Tree
  | [], t => (.ok (), t)
  | p :: ps, t =>
    if p.isEmpty then (.ok (), t)
    else match t.kind? p with
      | some true => createAncestors ps t
      | some false => (.error (.storage (.isFile p)), t)
      | none => createAncestors ps (t.put p true)

/-- Creates an entry of this kind at the path, and the directories above it that are missing. -/
def create (t : Tree) (p : Path) (isDir : Bool) : Except Error Unit × Tree :=
  match createAncestors p.ancestors t with
  | (.ok (), t) => (.ok (), t.put p isDir)
  | (.error e, t) => (.error e, t)

/-- Creates a directory; one that is there already is kept. -/
def createDir (t : Tree) (p : Path) : Except Error Unit × Tree :=
  if t.kind? p = some false then (.error (.storage (.isFile p)), t) else t.create p true

/-- Creates an empty file; one that is there already is kept. -/
def createFile (t : Tree) (p : Path) : Except Error Unit × Tree :=
  if t.kind? p = some true then (.error (.storage (.isDirectory p)), t) else t.create p false

/-! ## Looking and deleting -/

/-- Something is at the path. -/
def contains (t : Tree) (p : Path) : Bool := (t.find? p).isSome

/-- The entries from the path on, as long as they are at or below it. -/
def stretch (t : Tree) (p : Path) : List Entry :=
  (t.entries.dropWhile fun e => decide (e.path.Before p)).takeWhile fun e =>
    p.isAtOrAbove e.path

/-- The accepted entries directly below the path.  They stand in the stretch of entries that
begins with the path itself. -/
def list (t : Tree) (p : Path) (accept : Entry → Bool) : Except Error (List Entry) :=
  match t.kind? p with
  | none => .ok []
  | some false => .error (.storage (.notDirectory p))
  | some true =>
    .ok (((t.stretch p).drop 1).filter fun e =>
      e.path.parent?.any (fun d => decide (d ≈ p)) && accept e)

/-- The tree without the entries at or below the path. -/
def delete (t : Tree) (p : Path) : Tree :=
  ⟨t.entries.filter fun e => !p.isAtOrAbove e.path, t.inOrder.filter _⟩

theorem find?_delete (t : Tree) (p q : Path) :
    (t.delete p).find? q = if p.isAtOrAbove q then none else t.find? q := by
  have key : ∀ e : Entry, e.path ≈ q → p.isAtOrAbove e.path = p.isAtOrAbove q := fun e he => by
    rw [Path.isAtOrAbove, Path.isAtOrAbove, Path.equiv_iff.1 he]
  rw [find?, find?, delete, entryAt?, entryAt?, List.find?_filter]
  split
  · next h =>
    rw [List.find?_eq_none]
    intro e _ he
    simp only [decide_eq_true_eq, Bool.not_eq_true'] at he
    rw [key e he.2, h] at he
    exact absurd he.1 (by simp)
  · next h =>
    congr 1
    funext e
    by_cases he : e.path ≈ q
    · simp [he, key e he, h]
    · simp [he]

/-- Deleting empties the paths at or below one path and changes no other. -/
theorem kind?_delete (t : Tree) (p q : Path) :
    (t.delete p).kind? q = if p.isAtOrAbove q then none else t.kind? q := by
  rw [kind?, find?_delete, kind?]
  split <;> rfl

/-- The tree as a file system. -/
def fileSystem : FileSystem Tree where
  contains t p := .ok (t.contains p)
  list t p accept := t.list p accept
  delete t p := (.ok (), t.delete p)

end Tree
end IndexShards
