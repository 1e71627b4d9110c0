import IndexShards.Proofs.Runs
import IndexShards.Proofs.Tree.Rooted

/-!
# Runs of creations and deletions

A tree is made of the empty one by creations and deletions, of which some may fail.  Whatever the
run, nothing hangs in the air.  That nothing lies below a file is another matter: a creation that
fails at a file has created the lower directories by then, and these do lie below it.  It takes a
run without failures to keep files at the bottom.

The empty path is above every path and is never created on the way to one, so it is left out
throughout.

## What is here

* `Tree.Call`, `Tree.perform` — the operations that change a tree, as data; `reached` — the tree
  that they lead to.
* `delete_eq_self` — deleting a missing path changes nothing, if the tree is rooted.
* `create_ok`, `create_of_clear` — what a creation that succeeds has found and has done, and that
  it succeeds if no file is in the way.
* `Layered` — every ancestor of an entry is a directory; what succeeds keeps it.
* `reached_rooted` — **every run leaves a rooted tree, and one without failures a layered one**.
-/

set_option autoImplicit false

namespace IndexShards
namespace Tree

variable {t : Tree} {p : Path}

/-! ## Calls -/

/-- An operation that changes a tree. -/
inductive Call where
  | createDir (path : Path)
  | createFile (path : Path)
  | delete (path : Path)

/-- Makes a call.  A deletion always succeeds. -/
def perform (t : Tree) : Call → Except Error Unit × Tree
  | .createDir path => t.createDir path
  | .createFile path => t.createFile path
  | .delete path => (.ok (), t.delete path)

/-- The tree after calls on the empty one. -/
def reached (calls : List Call) : Tree := (runCalls perform .empty calls).2

theorem Reachable.perform (h : Reachable t) (c : Call) : Reachable (t.perform c).2 := by
  cases c with
  | createDir path => exact h.createDir path
  | createFile path => exact h.createFile path
  | delete path => exact h.delete path

theorem reachable_reached (calls : List Call) : Reachable (reached calls) :=
  runCalls_induction Reachable.empty (fun _ c h => h.perform c) calls

/-! ## Missing paths -/

/-- No entry is at or below a missing path. -/
theorem Rooted.isAtOrAbove_eq_false (h : Rooted t) (hp : t.contains p = false)
    (hne : p.parts ≠ []) {e : Entry} (he : e ∈ t.entries) : p.isAtOrAbove e.path = false := by
  rw [← Bool.not_eq_true]
  intro hpe
  have hthere := contains_of_mem he
  rw [h.contains_eq_false hp hne hpe] at hthere
  cases hthere

/-- Deleting a missing path changes nothing. -/
theorem delete_eq_self (h : Rooted t) (hp : t.contains p = false) (hne : p.parts ≠ []) :
    t.delete p = t := by
  have hkeep : t.entries.filter (fun e => !p.isAtOrAbove e.path) = t.entries := by
    refine List.filter_eq_self.2 fun e he => ?_
    rw [h.isAtOrAbove_eq_false hp hne he]
    rfl
  obtain ⟨es, hes⟩ := t
  rw [delete]
  congr

/-! ## Creations that succeed -/

/-- A creation that succeeds has found no file above its path, and has filled in the directories
there before it made the entry. -/
theorem create_ok {isDir : Bool} (h : (t.create p isDir).1 = .ok ()) :
    (∀ a : Path, a.IsAbove p → a.parts ≠ [] → t.kind? a ≠ some false) ∧
      ∃ filled, Filled t filled p 0 ∧ (t.create p isDir).2 = filled.put p isDir := by
  obtain ⟨n, hclimb, hfill⟩ := filled_createAncestors t p
  rw [create] at h ⊢
  generalize createAncestors p.ancestors t = out at hclimb hfill h ⊢
  obtain ⟨answer, filled⟩ := out
  cases hclimb with
  | top hclear => exact ⟨hclear, filled, hfill, rfl⟩
  | file => cases h

/-- A directory is created unless a file is at its path. -/
theorem createDir_ok (h : (t.createDir p).1 = .ok ()) :
    t.kind? p ≠ some false ∧ t.createDir p = t.create p true := by
  rw [createDir] at h ⊢
  split at h
  · cases h
  · next hk => exact ⟨hk, if_neg hk⟩

/-- A file is created unless a directory is at its path. -/
theorem createFile_ok (h : (t.createFile p).1 = .ok ()) :
    t.kind? p ≠ some true ∧ t.createFile p = t.create p false := by
  rw [createFile] at h ⊢
  split at h
  · cases h
  · next hk => exact ⟨hk, if_neg hk⟩

/-- With no file above its path, a creation succeeds. -/
theorem create_of_clear (h : ∀ a : Path, a.IsAbove p → a.parts ≠ [] → t.kind? a ≠ some false)
    (isDir : Bool) : (t.create p isDir).1 = .ok () := by
  obtain ⟨n, hclimb, -⟩ := filled_createAncestors t p
  rw [create]
  generalize createAncestors p.ancestors t = out at hclimb ⊢
  obtain ⟨answer, filled⟩ := out
  cases hclimb with
  | top => rfl
  | file habove hpos hk => exact absurd hk (h _ habove hpos)

/-- In the empty tree every directory can be created. -/
theorem contains_createDir_empty (p : Path) : (empty.createDir p).2.contains p = true := by
  have hnone : ∀ a, empty.kind? a ≠ some false := fun a h => by cases h
  obtain ⟨-, filled, -, hcreate⟩ := create_ok (create_of_clear (fun a _ _ => hnone a) true)
  rw [createDir, if_neg (hnone p), hcreate, contains_put_iff]
  exact Or.inl (Path.equiv_refl p)

/-- Whatever is above an entry is a directory, the empty path aside. -/
def Layered (t : Tree) : Prop :=
  ∀ p q : Path, t.contains q = true → p.IsAbove q → p.parts ≠ [] → t.kind? p = some true

/-- In a tree that was filled from a layered one, with no file on the way, everything above the
path is a directory, and everything above an entry. -/
theorem Filled.kind?_eq {t' : Tree} (hfill : Filled t t' p 0) (h : Layered t)
    (hclear : ∀ a : Path, a.IsAbove p → a.parts ≠ [] → t.kind? a ≠ some false) {x : Path}
    (hne : x.parts ≠ [])
    (hx : x.IsAbove p ∨ ∃ y, t'.contains y = true ∧ x.IsAbove y) : t'.kind? x = some true := by
  have habove : x.IsAbove p → t'.kind? x = some true := fun hxp => by
    rw [hfill x, if_pos ⟨hxp, List.length_pos_iff.2 hne⟩]
    cases hk : t.kind? x with
    | none => rfl
    | some isDir =>
      cases isDir with
      | true => rfl
      | false => exact absurd hk (hclear x hxp hne)
  rcases hx with hxp | ⟨y, hy, hxy⟩
  · exact habove hxp
  · rcases (hfill.contains_iff y).1 hy with hy | ⟨hyp, -⟩
    · rw [hfill x, h x y hy hxy hne, Option.some_or]
    · refine habove (Path.isAbove_iff.2 ⟨Path.isAtOrAbove_trans hxy.1 hyp.1, ?_⟩)
      exact Nat.lt_trans (Path.isAbove_iff.1 hxy).2 (Path.isAbove_iff.1 hyp).2

/-- A creation that succeeds keeps a tree layered, unless it puts a file where a directory is. -/
theorem Layered.create {isDir : Bool} (h : Layered t) (hok : (t.create p isDir).1 = .ok ())
    (hkind : isDir = false → t.kind? p ≠ some true) : Layered (t.create p isDir).2 := by
  obtain ⟨hclear, filled, hfill, hcreate⟩ := create_ok hok
  rw [hcreate]
  intro x y hy hxy hne
  rw [contains_put_iff] at hy
  rw [kind?_put]
  split
  · next hpx =>
    -- the entry itself is above `y`, so it was a directory before
    have hpy : ¬p ≈ y := fun he => hxy.2 (Path.equiv_trans (Path.equiv_symm hpx) he)
    have hyt : t.contains y = true := by
      refine ((hfill.contains_iff y).1 (hy.resolve_left hpy)).resolve_right fun hyp => ?_
      have hlt := Nat.lt_trans (Path.isAbove_iff.1 hxy).2 (Path.isAbove_iff.1 hyp.1).2
      rw [Path.equiv_iff.1 hpx] at hlt
      exact Nat.lt_irrefl _ hlt
    have hp : t.kind? p = some true := t.kind?_congr hpx ▸ h x y hyt hxy hne
    cases isDir with
    | true => rfl
    | false => exact absurd hp (hkind rfl)
  · refine hfill.kind?_eq h hclear hne ?_
    rcases hy with hpy | hy
    · left
      rw [Path.isAbove_iff, Path.isAtOrAbove_congr (Path.equiv_refl x) hpy, Path.equiv_iff.1 hpy]
      exact Path.isAbove_iff.1 hxy
    · exact Or.inr ⟨y, hy, hxy⟩

theorem Layered.delete (h : Layered t) (p : Path) : Layered (t.delete p) := by
  intro x y hy hxy hne
  obtain ⟨hy, hpy⟩ := (contains_delete_iff t p y).1 hy
  have hpx : ¬p.isAtOrAbove x = true := fun hpx => by
    rw [Path.isAtOrAbove_trans hpx hxy.1] at hpy
    cases hpy
  rw [kind?_delete, if_neg hpx]
  exact h x y hy hxy hne

/-- A call that succeeds keeps a tree layered. -/
theorem Layered.perform (h : Layered t) {c : Call} (hok : (t.perform c).1 = .ok ()) :
    Layered (t.perform c).2 := by
  cases c with
  | createDir path =>
    obtain ⟨-, hcreate⟩ := createDir_ok hok
    rw [Tree.perform, hcreate] at hok ⊢
    exact h.create hok fun htrue => absurd htrue (by decide)
  | createFile path =>
    obtain ⟨hk, hcreate⟩ := createFile_ok hok
    rw [Tree.perform, hcreate] at hok ⊢
    exact h.create hok fun _ => hk
  | delete path => exact h.delete path

/-! ## Runs -/

/-- A run of calls that all succeed keeps a tree layered. -/
theorem layered_runCalls {calls : List Call} (h : Layered t)
    (hok : ∀ answer ∈ (runCalls perform t calls).1, answer = .ok ()) :
    Layered (runCalls perform t calls).2 := by
  induction calls generalizing t with
  | nil => exact h
  | cons c calls ih =>
    rw [runCalls, List.forall_mem_cons] at hok
    exact ih (h.perform hok.1) hok.2

theorem layered_empty : Layered .empty := by
  intro x y hy
  cases hy

/-- **Every run leaves a rooted tree, and one without failures a layered one.**  After any calls,
failed ones included, the ancestors of an entry are entries, so that nothing is below a missing
path, and deleting it changes nothing.  If no call failed, the ancestors of an entry are
directories, so that nothing is below a file. -/
theorem reached_rooted (calls : List Call) :
    (∀ p q : Path, p.isEmpty = false → p.IsAbove q → (reached calls).contains q = true →
      (reached calls).contains p = true) ∧
    (∀ p : Path, p.isEmpty = false → (reached calls).contains p = false →
      (∀ e ∈ (reached calls).entries, p.isAtOrAbove e.path = false) ∧
        (reached calls).delete p = reached calls) ∧
    ((∀ answer ∈ (runCalls perform .empty calls).1, answer = .ok ()) →
      ∀ p q : Path, p.isEmpty = false → p.IsAbove q →
        ((reached calls).contains q = true → (reached calls).kind? p = some true) ∧
        ((reached calls).kind? p = some false → (reached calls).contains q = false)) := by
  have hrooted := (reachable_reached calls).rooted
  have hparts : ∀ {p : Path}, p.isEmpty = false → p.parts ≠ [] := fun hp h => by
    rw [Path.isEmpty_iff.2 h] at hp
    cases hp
  refine ⟨fun p q hp hpq hq => hrooted p q hq hpq (hparts hp), fun p hp hmissing => ?_,
    fun hok p q hp hpq => ?_⟩
  · exact ⟨fun e he => hrooted.isAtOrAbove_eq_false hmissing (hparts hp) he,
      delete_eq_self hrooted hmissing (hparts hp)⟩
  · have hdir := fun hq => layered_runCalls layered_empty hok p q hq hpq (hparts hp)
    refine ⟨hdir, fun hfile => ?_⟩
    rw [← Bool.not_eq_true]
    intro hq
    have hk := (hdir hq).symm.trans hfile
    cases hk

/-- A creation that fails at a file leaves directories below it, which do not hang in the air; a run
without failures leaves none. -/
theorem reached_rooted_of_failure :
    let calls : List Call := [.createDir ⟨"/a/b"⟩, .createFile ⟨"/a/f"⟩, .delete ⟨"/a//b/."⟩]
    let failing := calls ++ [.createDir ⟨"/a/f/x/y"⟩]
    (reached failing).kind? ⟨"/a/f"⟩ = some false ∧ (reached failing).contains ⟨"/a/f/x"⟩ = true ∧
      (reached failing).contains ⟨"/a"⟩ = true ∧
      (reached failing).delete ⟨"/a/b"⟩ = reached failing ∧
      (reached calls).contains ⟨"/a/f/x"⟩ = false := by
  intro calls failing
  obtain ⟨habove, hmissing, -⟩ := reached_rooted failing
  obtain ⟨-, -, hfiles⟩ := reached_rooted calls
  refine ⟨by decide +kernel, by decide +kernel, ?_, ?_, ?_⟩
  · exact habove ⟨"/a"⟩ ⟨"/a/f/x"⟩ (by decide +kernel) (by decide +kernel) (by decide +kernel)
  · exact (hmissing ⟨"/a/b"⟩ (by decide +kernel) (by decide +kernel)).2
  · have hanswers : (runCalls perform .empty calls).1 = [.ok (), .ok (), .ok ()] := by rfl
    have hok : ∀ answer ∈ (runCalls perform .empty calls).1, answer = .ok () := by
      rw [hanswers]
      simp
    exact (hfiles hok ⟨"/a/f"⟩ ⟨"/a/f/x"⟩ (by decide +kernel) (by decide +kernel)).2
      (by decide +kernel)

end Tree
end IndexShards
