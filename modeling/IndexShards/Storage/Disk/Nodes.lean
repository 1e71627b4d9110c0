import IndexShards.Error
import IndexShards.Text.Pieces
import Std.Data.ExtTreeMap

/-!
# What is on a disk, and how a path is followed

A disk is a tree of directories, files and symbolic links below one root, together with a working
directory, from which relative paths are followed.  Following a path means taking its steps one by
one, each from a directory; a link on the way is replaced by the steps of its target.  The system
refuses texts and names beyond its limits, and gives up after so many links.

## What is here

* `Location`, `Node`, `Disk` — the names from the root to a place, what can be there, and the
  whole.
* `Step`, `stepsOf` — the steps of a path.
* `Aim` — what a path is followed for, which decides what becomes of a link that ends it.
* `Disk.advance` — taking steps up to the end or to the first link; `Disk.follow` — taking them all.
* `Disk.spotOf`, `Disk.nodeAt` — the place that a path leads to, and what is there.
-/

set_option autoImplicit false

namespace IndexShards

open Std Text

/-! ## Disks -/

/-- The names from the root down to a place. -/
abbrev Location := List String

/-- What can be at a place. -/
inductive Node where
  | dir
  | file
  /-- A symbolic link with the text of its target. -/
  | link (target : String)
deriving DecidableEq

/-- What is below the root of a disk, and the working directory. -/
structure Disk where
  nodes : ExtTreeMap Location Node
  workDir : Location

namespace Disk

/-- The disk that has the working directory and nothing else. -/
def empty (workDir : Location) : Disk where
  nodes := (List.range workDir.length).foldl (fun m n => m.insert (workDir.take (n + 1)) .dir) ∅
  workDir := workDir

/-- What is at a place.  The root is always there. -/
def node? (d : Disk) (l : Location) : Option Node :=
  if l = [] then some .dir else d.nodes[l]?

/-! ## Steps -/

/-- What a piece of a path asks for. -/
inductive Step where
  /-- To stay in the same directory, which has to be one. -/
  | stay
  /-- The same, asked for by the slash that ends a path. -/
  | slash
  /-- To go to the directory above; the one above the root is the root. -/
  | up
  /-- To go to what has this name. -/
  | into (name : String)
deriving DecidableEq

/-- The step that a piece between two slashes asks for. -/
def stepOf? : List Char → Option Step
  | [] => none
  | ['.'] => some .stay
  | ['.', '.'] => some .up
  | cs => some (.into (String.ofList cs))

/-- The steps of a path. -/
def stepsOf (cs : List Char) : List Step :=
  (pieces '/' cs).filterMap stepOf? ++ if cs.getLast? = some '/' then [.slash] else []

/-- Where a path begins that is followed from the directory `l`. -/
def startOf (l : Location) (cs : List Char) : Location := if cs.head? = some '/' then [] else l

/-- The longest name, in bytes. -/
def nameLimit : Nat := 255

/-- No path has as many bytes. -/
def pathLimit : Nat := 4096

/-- The most links that are followed on the way to one place. -/
def linkLimit : Nat := 40

/-- What the system says to the text of a path before it looks at any place. -/
def checkText (path : String) : Except SystemError Unit :=
  if path.toList.contains '\x00' then .error .unexpectedNul
  else if path = "" then .error .notFound
  else if pathLimit ≤ path.utf8ByteSize then .error .nameTooLong
  else .ok ()

/-! ## Following a path -/

/-- What a path is followed for. -/
inductive Aim where
  /-- For the place that it names, be it a link. -/
  | place
  /-- For what is there, through a link if need be. -/
  | target
  /-- The same, to write a file there; so no slash may end the path. -/
  | file
deriving DecidableEq

/-- A place, and whether anything is there.  If not, its directory is there. -/
structure Spot where
  location : Location
  taken : Bool
deriving DecidableEq

/-- How far steps lead: to a place, or to a link in a directory, with the steps behind it. -/
inductive Stop where
  | spot (s : Spot)
  | link (dir : Location) (target : String) (rest : List Step)

/-- Takes the steps from the place `l`, up to the first link that has to be followed. -/
def advance (d : Disk) (aim : Aim) : Location → List Step → Except SystemError Stop
  | l, [] => .ok (.spot ⟨l, true⟩)
  | l, s :: rest =>
    match d.node? l with
    | none => .error .notFound
    | some .file => .error .notDirectory
    | some (.link _) => .error .notDirectory
    | some .dir =>
      match s with
      | .stay => advance d aim l rest
      | .slash => advance d aim l rest
      | .up => advance d aim l.dropLast rest
      | .into name =>
        if aim = .file ∧ rest = [.slash] then .error .isDirectory
        else if nameLimit < name.utf8ByteSize then .error .nameTooLong
        else match d.node? (l ++ [name]) with
          | none => if rest = [] then .ok (.spot ⟨l ++ [name], false⟩) else .error .notFound
          | some (.link target) =>
            if rest = [] ∧ aim = .place then .ok (.spot ⟨l ++ [name], true⟩)
            else .ok (.link l target rest)
          | some _ => advance d aim (l ++ [name]) rest

/-- Takes the steps from the place `l`, through at most so many links. -/
def follow (d : Disk) (aim : Aim) : Nat → Location → List Step → Except SystemError Spot
  | 0, l, steps => do
    match ← d.advance aim l steps with
    | .spot s => .ok s
    | .link _ _ _ => .error .tooManyLinks
  | links + 1, l, steps => do
    match ← d.advance aim l steps with
    | .spot s => .ok s
    | .link dir target rest =>
      d.follow aim links (startOf dir target.toList) (stepsOf target.toList ++ rest)

/-- The place that a path leads to. -/
def spotOf (d : Disk) (aim : Aim) (path : String) : Except SystemError Spot := do
  checkText path
  d.follow aim linkLimit (startOf d.workDir path.toList) (stepsOf path.toList)

/-- What a path leads to, and where it is. -/
def nodeAt (d : Disk) (aim : Aim) (path : String) : Except SystemError (Location × Node) := do
  let s ← d.spotOf aim path
  match d.node? s.location with
  | some n => if s.taken then .ok (s.location, n) else .error .notFound
  | none => .error .notFound

/-- A directory is at the path, through links if need be. -/
def isDir (d : Disk) (path : String) : Bool :=
  match d.nodeAt .target path with
  | .ok (_, .dir) => true
  | _ => false

end Disk
end IndexShards
