import IndexShards.Proofs.Tree.Failure

/-!
# What a creation that succeeds leaves behind

A creation succeeds if nothing is in its way: no entry of the other kind is at the path, and no file
is above it.  It does not matter what else is there, or how anything is spelled.  Afterwards every
entry is where it was, with its kind and its spelling; the path has an entry of the kind that was
asked for; and everything above the path is a directory, with the exception of the empty path, at
which the climb ends.  So there is nothing left to make, and the same call again makes nothing.

## What is here

* `Admits t p isDir` — nothing is in the way of an entry of this kind.
* `gained p isDir x` — what a creation adds at `x`, if nothing is there.
* `Gains t t' p isDir` — the tree `t'` is `t` with what the creation adds.
* `create_ok_iff`, `gains_create` — a creation succeeds exactly if no file is above its path, and
  what it adds then.
* `put_eq_self`, `Gains.create_again` — an entry that is there already can be put again, and a
  creation can be made again, without any effect.
* `make`, `make_ok_iff` — the creation of a directory or of a file, and what it depends on.
* `creation_exact` — **when a creation succeeds, and what it does**.
-/

set_option autoImplicit false

namespace IndexShards

/-! ## Entries -/

/-- An entry stays when another one is put, unless that one is at its path and of the other kind. -/
theorem mem_insertEntry_of_mem {d e : Entry} {es : List Entry} (hd : d ∈ es)
    (hkind : d.path ≈ e.path → d.isDir = e.isDir) : d ∈ insertEntry e es := by
  induction es with
  | nil => cases hd
  | cons c cs ih =>
    rw [insertEntry]
    split
    · exact List.mem_cons_of_mem _ hd
    · next heq =>
      rcases List.mem_cons.1 hd with rfl | hd
      · rw [← hkind (Path.equiv_symm (Path.cmp_eq_iff.1 heq))]
        exact List.mem_cons_self
      · exact List.mem_cons_of_mem _ hd
    · rcases List.mem_cons.1 hd with rfl | hd
      · exact List.mem_cons_self
      · exact List.mem_cons_of_mem _ (ih hd)

/-- Putting an entry of the kind that is there already changes nothing. -/
theorem insertEntry_eq_self {d e : Entry} {es : List Entry} (hes : InOrder es) (hd : d ∈ es)
    (hpath : d.path ≈ e.path) (hkind : d.isDir = e.isDir) : insertEntry e es = es := by
  induction es with
  | nil => cases hd
  | cons c cs ih =>
    obtain ⟨hc, hcs⟩ := List.pairwise_cons.1 hes
    rw [insertEntry]
    split
    · next hlt =>
      -- the new entry would stand before all others, but one of them is at its path
      have hbefore : e.path.Before d.path := by
        rcases List.mem_cons.1 hd with rfl | hd
        · exact hlt
        · exact Path.Before.trans hlt (hc d hd)
      exact absurd (Path.equiv_symm hpath) hbefore.not_equiv
    · next heq =>
      rcases List.mem_cons.1 hd with rfl | hd
      · rw [← hkind]
      · have hcd : c.path ≈ d.path :=
          Path.equiv_trans (Path.equiv_symm (Path.cmp_eq_iff.1 heq)) (Path.equiv_symm hpath)
        exact absurd hcd (hc d hd).not_equiv
    · next hgt =>
      rcases List.mem_cons.1 hd with rfl | hd
      · rw [Path.cmp_eq_iff.2 (Path.equiv_symm hpath)] at hgt
        cases hgt
      · rw [ih hcs hd]

namespace Tree

variable {t t' : Tree} {p x : Path} {isDir : Bool}

/-- Where there is no entry of the other kind, there is nothing or one of this kind. -/
theorem kind?_or_self (hk : t.kind? p ≠ some !isDir) :
    (t.kind? p).or (some isDir) = some isDir := by
  rcases hp : t.kind? p with _ | b
  · rfl
  · have hb : b = isDir := by
      by_contra hne
      exact hk (hp.trans (congrArg some (Bool.eq_not_of_ne hne)))
    rw [hb, Option.some_or]

theorem mem_entries_put {e : Entry} (he : e ∈ t.entries) (hk : t.kind? p ≠ some !isDir) :
    e ∈ (t.put p isDir).entries := by
  refine mem_insertEntry_of_mem he fun hep => ?_
  have hkind : t.kind? p = some e.isDir :=
    kind?_eq_some_iff.2 ⟨e, he, hep, rfl⟩
  have hself := kind?_or_self hk
  rw [hkind, Option.some_or] at hself
  exact Option.some.inj hself

theorem put_eq_self (hk : t.kind? p = some isDir) : t.put p isDir = t := by
  obtain ⟨e, he, hep, hkind⟩ := kind?_eq_some_iff.1 hk
  obtain ⟨es, hes⟩ := t
  rw [put]
  congr
  exact insertEntry_eq_self hes he hep hkind

/-! ## What is in the way, and what is added -/

/-- Nothing is in the way of an entry of this kind: there is no entry of the other kind at the path,
and no file above it. -/
structure Admits (t : Tree) (p : Path) (isDir : Bool) : Prop where
  free : t.kind? p ≠ some !isDir
  clear : ∀ a : Path, a.IsAbove p → a.isEmpty = false → t.kind? a ≠ some false

/-- What a creation adds, where nothing is: an entry of the kind that is asked for at the path, and
directories above it, the empty path aside. -/
def gained (p : Path) (isDir : Bool) (x : Path) : Option Bool :=
  if x ≈ p then some isDir
  else if x.IsAbove p ∧ x.isEmpty = false then some true
  else none

/-- The tree `t'` is `t` with what a creation adds.  What was there keeps its kind and spelling. -/
structure Gains (t t' : Tree) (p : Path) (isDir : Bool) : Prop where
  kind?_eq : ∀ x, t'.kind? x = (t.kind? x).or (gained p isDir x)
  entries_subset : t.entries ⊆ t'.entries

/-! ## Creating -/

/-- A creation succeeds exactly if no file is above its path. -/
theorem create_ok_iff : (t.create p isDir).1 = .ok () ↔
    ∀ a : Path, a.IsAbove p → a.isEmpty = false → t.kind? a ≠ some false := by
  simp only [Path.isEmpty_eq_false_iff]
  exact ⟨fun h => (create_ok h).1, fun h => create_of_clear h isDir⟩

/-- A climb takes no entry away. -/
theorem entries_subset_createAncestors (ps : List Path) (t : Tree) :
    t.entries ⊆ (createAncestors ps t).2.entries := by
  induction ps generalizing t with
  | nil => exact List.Subset.refl _
  | cons p ps ih =>
    rw [createAncestors]
    split
    · exact List.Subset.refl _
    · split
      · exact ih t
      · exact List.Subset.refl _
      · next hk =>
        intro e he
        exact ih _ (mem_entries_put he (by simp [hk]))

/-- **What a creation adds.** -/
theorem gains_create (h : (t.create p isDir).1 = .ok ()) (hk : t.kind? p ≠ some !isDir) :
    Gains t (t.create p isDir).2 p isDir := by
  obtain ⟨n, hclimb, hfill⟩ := filled_createAncestors t p
  have hsubset := entries_subset_createAncestors p.ancestors t
  rw [create] at h ⊢
  generalize createAncestors p.ancestors t = out at hclimb hfill hsubset h ⊢
  obtain ⟨answer, filled⟩ := out
  cases hclimb with
  | file => cases h
  | top =>
    refine ⟨fun x => ?_, fun e he => mem_entries_put (hsubset he) ?_⟩
    · rw [kind?_put, hfill x, gained]
      by_cases hx : p ≈ x
      · rw [if_pos hx, if_pos (Path.equiv_symm hx), ← t.kind?_congr hx, kind?_or_self hk]
      · rw [if_neg hx, if_neg (mt Path.equiv_symm hx)]
        simp only [Path.isEmpty_eq_false_iff, List.length_pos_iff]
    · -- the climb passes above the path, and leaves the path alone
      rw [hfill p, if_neg fun hp => hp.1.2 (Path.equiv_refl p), Option.or_none]
      exact hk

/-! ## Creating again -/

/-- If everything above the path is a directory, and an entry of the kind that is asked for is at
the path, there is nothing to make. -/
theorem create_eq_self (hk : t.kind? p = some isDir)
    (habove : ∀ a : Path, a.IsAbove p → a.isEmpty = false → t.kind? a = some true) :
    t.create p isDir = (.ok (), t) := by
  have hok : (t.create p isDir).1 = .ok () :=
    create_ok_iff.2 fun a ha hne => by simp [habove a ha hne]
  have hsame : (createAncestors p.ancestors t).2 = t := by
    refine createAncestors_of_contains fun q hq hne => ?_
    obtain ⟨hpre, hlt⟩ := Path.parts_of_mem_ancestors hq
    exact contains_of_kind? (habove q (Path.isAbove_iff.2 ⟨Path.isAtOrAbove_iff.2 hpre, hlt⟩) hne)
  rw [create] at hok ⊢
  generalize createAncestors p.ancestors t = out at hok hsame ⊢
  obtain ⟨answer, filled⟩ := out
  cases answer with
  | error => cases hok
  | ok => exact Prod.ext rfl ((congrArg (put · p isDir) hsame).trans (put_eq_self hk))

/-- If nothing was in the way, the path has the kind that was asked for. -/
theorem Gains.kind?_self (h : Gains t t' p isDir) (hk : t.kind? p ≠ some !isDir) :
    t'.kind? p = some isDir := by
  rw [h.kind?_eq p, gained, if_pos (Path.equiv_refl p), kind?_or_self hk]

/-- If no file was above the path, everything there is a directory. -/
theorem Gains.kind?_of_isAbove (h : Gains t t' p isDir) {a : Path} (ha : a.IsAbove p)
    (hne : a.isEmpty = false) (hk : t.kind? a ≠ some false) : t'.kind? a = some true := by
  rw [h.kind?_eq a, gained, if_neg ha.2, if_pos ⟨ha, hne⟩]
  rcases hat : t.kind? a with _ | _ | _
  · rfl
  · exact absurd hat hk
  · rfl

/-- Where a creation was admitted, and has been made, it has nothing left to make. -/
theorem Gains.create_again (h : Gains t t' p isDir) (hadmits : t.Admits p isDir) :
    t'.create p isDir = (.ok (), t') :=
  create_eq_self (h.kind?_self hadmits.free) fun a ha hne =>
    h.kind?_of_isAbove ha hne (hadmits.clear a ha hne)

/-! ## Directories and files -/

/-- The creation of a directory, or of a file. -/
def make (t : Tree) (p : Path) : Bool → Except Error Unit × Tree
  | true => t.createDir p
  | false => t.createFile p

/-- A creation that succeeds has found no entry of the other kind at its path. -/
theorem free_of_make_ok (h : (t.make p isDir).1 = .ok ()) : t.kind? p ≠ some !isDir := by
  cases isDir with
  | true => exact (createDir_ok h).1
  | false => exact (createFile_ok h).1

theorem make_of_free (hk : t.kind? p ≠ some !isDir) : t.make p isDir = t.create p isDir := by
  cases isDir with
  | true => exact if_neg hk
  | false => exact if_neg hk

theorem make_ok_iff : (t.make p isDir).1 = .ok () ↔ t.Admits p isDir := by
  constructor
  · intro h
    have hk := free_of_make_ok h
    rw [make_of_free hk, create_ok_iff] at h
    exact ⟨hk, h⟩
  · intro h
    rw [make_of_free h.free]
    exact create_ok_iff.2 h.clear

theorem gains_make (h : (t.make p isDir).1 = .ok ()) :
    Gains t (t.make p isDir).2 p isDir := by
  have hk := free_of_make_ok h
  rw [make_of_free hk] at h ⊢
  exact gains_create h hk

/-- **A creation that has succeeded succeeds again, and changes nothing.** -/
theorem make_again (h : (t.make p isDir).1 = .ok ()) :
    (t.make p isDir).2.make p isDir = (.ok (), (t.make p isDir).2) := by
  have hadmits := make_ok_iff.1 h
  have hgains := gains_make h
  have hself := hgains.kind?_self hadmits.free
  rw [make_of_free (by simp [hself])]
  exact hgains.create_again hadmits

/-- **When a creation succeeds, and what it does.**  A directory is created exactly if no file is at
the path or above it, and a file exactly if no directory is at the path and no file above it.  Then
the entries that were there are still there, each with its kind and its spelling; the path has the
kind that was asked for, and what was missing above it is a directory; and no other place has an
entry that had none.  The same creation succeeds again and changes nothing. -/
theorem creation_exact (t : Tree) (p : Path) :
    ((t.createDir p).1 = .ok () ↔ t.Admits p true) ∧
    ((t.createFile p).1 = .ok () ↔ t.Admits p false) ∧
    ((t.createDir p).1 = .ok () →
      Gains t (t.createDir p).2 p true ∧ (t.createDir p).2.kind? p = some true ∧
        (t.createDir p).2.createDir p = (.ok (), (t.createDir p).2)) ∧
    ((t.createFile p).1 = .ok () →
      Gains t (t.createFile p).2 p false ∧ (t.createFile p).2.kind? p = some false ∧
        (t.createFile p).2.createFile p = (.ok (), (t.createFile p).2)) := by
  have key : ∀ isDir, (t.make p isDir).1 = .ok () →
      Gains t (t.make p isDir).2 p isDir ∧ (t.make p isDir).2.kind? p = some isDir ∧
        (t.make p isDir).2.make p isDir = (.ok (), (t.make p isDir).2) := by
    intro isDir h
    exact ⟨gains_make h, (gains_make h).kind?_self (free_of_make_ok h), make_again h⟩
  exact ⟨@make_ok_iff t p true, @make_ok_iff t p false, key true, key false⟩

/-- A directory is at `/a`, spelled `//a/.`, and a file at `/a/f`.  The directory `/a/b/../c/./d`
can be created, with three more above it, and the same call again changes nothing, whereas nothing
can be created below the file. -/
theorem creation_exact_of_spellings :
    let t := ((empty.createDir ⟨"//a/."⟩).2.createFile ⟨"/a/f"⟩).2
    let deep := t.createDir ⟨"/a/b/../c/./d"⟩
    t.Admits ⟨"/a/b/../c/./d"⟩ true ∧ deep.2.kind? ⟨"/a/b/../c"⟩ = some true ∧
      deep.2.kind? ⟨"/a/c"⟩ = none ∧ deep.2.createDir ⟨"/a/b/../c/./d"⟩ = (.ok (), deep.2) ∧
      t.createFile ⟨"/a/f"⟩ = (.ok (), t) ∧ (t.createDir ⟨"/a/f/x"⟩).1 ≠ .ok () := by
  intro t deep
  have hok : deep.1 = .ok () := by rfl
  obtain ⟨hdir, -, hmade, -⟩ := creation_exact t ⟨"/a/b/../c/./d"⟩
  obtain ⟨hgains, -, hagain⟩ := hmade hok
  refine ⟨hdir.1 hok, ?_, ?_, hagain, ?_, ?_⟩
  · rw [hgains.kind?_eq]
    decide +kernel
  · rw [hgains.kind?_eq]
    decide +kernel
  · exact ((creation_exact (empty.createDir ⟨"//a/."⟩).2 ⟨"/a/f"⟩).2.2.2 (by rfl)).2.2
  · intro h
    have hfile : t.kind? ⟨"/a/f"⟩ = some false := by decide +kernel
    exact ((creation_exact t ⟨"/a/f/x"⟩).1.1 h).clear ⟨"/a/f"⟩ (by decide +kernel) (by rfl) hfile

end Tree
end IndexShards
