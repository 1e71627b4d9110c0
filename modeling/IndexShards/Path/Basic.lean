import IndexShards.Text.Pieces

/-!
# Paths

A path is a text, and the text is kept as it was given.  What the path *means* is the sequence of
its parts: repeated and trailing slashes are spelling, and so is a single dot, except at the very
start of a relative path.  Two paths with the same parts are the same place in a tree, and they are
told apart only where their text is shown.

Every path here is a Unicode text.  A file system may also hold names whose bytes are none, and for
these `Entry.name` and `ProbeTask.shardName?` would have to answer as if there were no name.  Such
paths are left out.

## What is here

* `Part` and `Path.parts` — the parts of a path; `p ≈ q` says that two paths have the same ones.
* `Path.ancestors p` — what remains of `p` when its last part is dropped, once, twice and so on,
  each as the text before the part without the separators it ends in.  `Path.parent?` is the first
  of them.
* `Path.join p s` — the text `s` below `p`; an absolute `s` stands for itself.
* `Path.fileName?` — the last part, if it is a name.
-/

set_option autoImplicit false

namespace IndexShards

open Text

/-- One step of a path. -/
inductive Part where
  /-- The root, before the first part of an absolute path. -/
  | root
  /-- The single dot that a relative path may start with. -/
  | here
  /-- A double dot, wherever it stands. -/
  | up
  /-- A name. -/
  | name (text : String)
deriving DecidableEq

/-- A path in a tree of directories, as it was written. -/
structure Path where
  text : String
deriving DecidableEq

namespace Path

/-! ## The parts of a text -/

/-- How a path starts: with a slash, with a single dot, or with its first name. -/
inductive Lead where
  | slash
  | dot
  | plain
deriving DecidableEq

/-- The characters that a lead stands for. -/
def Lead.chars : Lead → List Char
  | slash => ['/']
  | dot => ['.']
  | plain => []

/-- The part that a lead stands for. -/
def Lead.parts : Lead → List Part
  | slash => [.root]
  | dot => [.here]
  | plain => []

/-- The lead of a text, and the pieces between the slashes of what follows it. -/
def split : List Char → Lead × List (List Char)
  | '/' :: cs => (.slash, pieces '/' cs)
  | ['.'] => (.dot, [[]])
  | '.' :: '/' :: cs => (.dot, [] :: pieces '/' cs)
  | cs => (.plain, pieces '/' cs)

/-- The part that a piece stands for; an empty piece and a single dot stand for none. -/
def partOf? : List Char → Option Part
  | [] => none
  | ['.'] => none
  | ['.', '.'] => some .up
  | cs => some (.name (String.ofList cs))

/-- The parts of a list of characters. -/
def partsOf (cs : List Char) : List Part :=
  (split cs).1.parts ++ (split cs).2.filterMap partOf?

/-- The parts of a path. -/
def parts (p : Path) : List Part := partsOf p.text.toList

/-- Two paths are equivalent if they have the same parts. -/
def Equiv (p q : Path) : Prop := p.parts = q.parts

instance : HasEquiv Path := ⟨Equiv⟩

theorem equiv_iff {p q : Path} : p ≈ q ↔ p.parts = q.parts := Iff.rfl

instance (p q : Path) : Decidable (p ≈ q) := inferInstanceAs (Decidable (p.parts = q.parts))

@[refl] theorem equiv_refl (p : Path) : p ≈ p := equiv_iff.2 rfl

theorem equiv_symm {p q : Path} (h : p ≈ q) : q ≈ p := equiv_iff.2 (equiv_iff.1 h).symm

theorem equiv_trans {p q r : Path} (h : p ≈ q) (k : q ≈ r) : p ≈ r :=
  equiv_iff.2 ((equiv_iff.1 h).trans (equiv_iff.1 k))

/-- The lead and the pieces of a text hold all of it. -/
theorem lead_append_joined_split (cs : List Char) :
    (split cs).1.chars ++ joined '/' (split cs).2 = cs := by
  unfold split
  split
  · simp [Lead.chars, joined_pieces]
  · rfl
  · simp [Lead.chars, joined_nil_cons, pieces_ne_nil, joined_pieces]
  · simp [Lead.chars, joined_pieces]

/-! ## Dropping the last part -/

/-- Without the pieces at its head that stand for no part. -/
def dropSilent (ps : List (List Char)) : List (List Char) :=
  ps.dropWhile fun p => (partOf? p).isNone

/-- What is left of the pieces, last one first, when one part is dropped, when two are, and so
on. -/
def stems : List (List Char) → List (List (List Char))
  | [] => []
  | p :: ps => if (partOf? p).isNone then stems ps else dropSilent ps :: stems ps

/-- The path with a given lead and pieces. -/
def ofPieces (lead : Lead) (ps : List (List Char)) : Path :=
  ⟨String.ofList (lead.chars ++ joined '/' ps)⟩

/-- What remains of the path when its last part is dropped, once, twice and so on. -/
def ancestors (p : Path) : List Path :=
  let (lead, ps) := split p.text.toList
  (stems ps.reverse).map (fun qs => ofPieces lead qs.reverse) ++
    if lead = .dot then [⟨""⟩] else []

/-- The path without its last part; the root and the empty path have none. -/
def parent? (p : Path) : Option Path := p.ancestors.head?

/-- The path has no text at all. -/
def isEmpty (p : Path) : Bool := p.text == ""

/-! ## Names -/

/-- The last part of the path, if it is a name. -/
def fileName? (p : Path) : Option String :=
  match p.parts.getLast? with
  | some (.name s) => some s
  | _ => none

/-- The text `s` below the path.  An absolute `s` stands for itself, and an empty one leaves a
slash. -/
def join (p : Path) (s : String) : Path :=
  match s.toList, p.text.toList.getLast? with
  | '/' :: _, _ => ⟨s⟩
  | _, none => ⟨s⟩
  | _, some '/' => ⟨p.text ++ s⟩
  | _, some _ => ⟨p.text ++ "/" ++ s⟩

/-! ## Prefixes -/

/-- The parts of `q` begin with those of `p`: `q` is `p` or lies below it. -/
def isAtOrAbove (p q : Path) : Bool := p.parts.isPrefixOf q.parts

theorem isAtOrAbove_iff {p q : Path} : p.isAtOrAbove q = true ↔ p.parts <+: q.parts :=
  List.isPrefixOf_iff_prefix

end Path
end IndexShards
