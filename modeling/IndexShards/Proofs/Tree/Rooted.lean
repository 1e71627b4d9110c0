import IndexShards.Proofs.Tree.Creation

/-!
# Nothing hangs in the air

In a tree that creations and deletions have made of the empty one, whatever is above an entry is an
entry itself, the empty path aside.  A creation may fail half-way, with some of the directories
above its path created; they are the lower ones, and the file it failed at is above them.

## What is here

* `Reachable` — the trees that runs of creations and deletions lead to, failed creations included.
* `Rooted` — no entry without its ancestors.  `Reachable.rooted`: **every reachable tree is
  rooted**, by one lemma for each operation.
* `Rooted.contains_eq_false` — nothing is below a missing path of a rooted tree.
-/

set_option autoImplicit false

namespace IndexShards
namespace Tree

/-- The trees that creations and deletions make of the empty one.  A creation that fails counts,
with what it has created until then. -/
inductive Reachable : Tree → Prop
  | empty : Reachable .empty
  | createDir {t : Tree} (p : Path) (h : Reachable t) : Reachable (t.createDir p).2
  | createFile {t : Tree} (p : Path) (h : Reachable t) : Reachable (t.createFile p).2
  | delete {t : Tree} (p : Path) (h : Reachable t) : Reachable (t.delete p)

/-- Whatever is above an entry is an entry itself, the empty path aside. -/
def Rooted (t : Tree) : Prop :=
  ∀ p q : Path, t.contains q = true → p.IsAbove q → p.parts ≠ [] → t.contains p = true

/-- A path with something at or below it is an entry, the empty path aside. -/
theorem Rooted.contains_of_isAtOrAbove {t : Tree} (h : Rooted t) {p q : Path}
    (hpq : p.isAtOrAbove q = true) (hne : p.parts ≠ []) (hq : t.contains q = true) :
    t.contains p = true := by
  rcases Path.isAtOrAbove_iff_isAbove.1 hpq with he | habove
  · exact t.contains_congr he ▸ hq
  · exact h p q hq habove hne

/-- Nothing is below a missing path. -/
theorem Rooted.contains_eq_false {t : Tree} (h : Rooted t) {p q : Path}
    (hp : t.contains p = false) (hne : p.parts ≠ []) (hpq : p.isAtOrAbove q = true) :
    t.contains q = false := by
  rw [← Bool.not_eq_true] at hp ⊢
  exact fun hq => hp (h.contains_of_isAtOrAbove hpq hne hq)

/-! ## Creations -/

/-- What a climb fills in does not hang in the air: below the file that ends it, everything up to
the file is filled in, and above the file there was no gap before. -/
theorem Rooted.of_filled {t t' : Tree} {p : Path} {answer : Except Error Unit} {n : Nat}
    (h : Rooted t) (hclimb : Climb t p answer n) (hfill : Filled t t' p n) : Rooted t' := by
  intro x y hy hxy hx
  rw [hfill.contains_iff] at hy ⊢
  rcases hy with hy | ⟨hyp, -⟩
  · exact Or.inl (h x y hy hxy hx)
  · have hxp : x.IsAbove p := Path.isAbove_iff.2 ⟨Path.isAtOrAbove_trans hxy.1 hyp.1,
      Nat.lt_trans (Path.isAbove_iff.1 hxy).2 (Path.isAbove_iff.1 hyp).2⟩
    by_cases hn : n < x.parts.length
    · exact Or.inr ⟨hxp, hn⟩
    · cases hclimb with
      | top => exact absurd (List.length_pos_iff.2 hx) hn
      | @file a habove hpos hk =>
        have ha : t.contains a = true := contains_of_kind? hk
        have hxa : x.isAtOrAbove a = true :=
          Path.isAtOrAbove_total_of_isAtOrAbove hxp.1 habove.1 (Nat.not_lt.1 hn)
        rcases Path.isAtOrAbove_iff_isAbove.1 hxa with he | hxa
        · exact Or.inl (t.contains_congr he ▸ ha)
        · exact Or.inl (h x a ha hxa hx)

theorem Rooted.create {t : Tree} (h : Rooted t) (p : Path) (isDir : Bool) :
    Rooted (t.create p isDir).2 := by
  obtain ⟨n, hclimb, hfill⟩ := filled_createAncestors t p
  have hrooted := h.of_filled hclimb hfill
  rw [Tree.create]
  generalize createAncestors p.ancestors t = out at hclimb hfill hrooted ⊢
  obtain ⟨answer, t'⟩ := out
  cases hclimb with
  | file => exact hrooted
  | top =>
    intro x y hy hxy hx
    rw [contains_put_iff] at hy ⊢
    right
    rcases hy with he | hy
    · have hxp : x.IsAbove p := by
        rw [Path.isAbove_iff, Path.isAtOrAbove_congr (Path.equiv_refl x) he, Path.equiv_iff.1 he]
        exact Path.isAbove_iff.1 hxy
      exact (hfill.contains_iff x).2 (Or.inr ⟨hxp, List.length_pos_iff.2 hx⟩)
    · exact hrooted x y hy hxy hx

/-! ## Deletions -/

theorem contains_delete_iff (t : Tree) (p q : Path) :
    (t.delete p).contains q = true ↔ t.contains q = true ∧ p.isAtOrAbove q = false := by
  rw [contains, find?_delete, contains]
  cases p.isAtOrAbove q <;> simp

theorem Rooted.delete {t : Tree} (h : Rooted t) (p : Path) : Rooted (t.delete p) := by
  intro x y hy hxy hx
  rw [contains_delete_iff] at hy ⊢
  obtain ⟨hy, hpy⟩ := hy
  refine ⟨h x y hy hxy hx, ?_⟩
  rw [← Bool.not_eq_true] at hpy ⊢
  exact fun hpx => hpy (Path.isAtOrAbove_trans hpx hxy.1)

/-! ## Runs -/

/-- **Every reachable tree is rooted.** -/
theorem Reachable.rooted {t : Tree} (h : Reachable t) : Rooted t := by
  induction h with
  | empty =>
    intro x y hy
    cases hy
  | createDir p _ ih =>
    rw [Tree.createDir]
    split
    · exact ih
    · exact ih.create p true
  | createFile p _ ih =>
    rw [Tree.createFile]
    split
    · exact ih
    · exact ih.create p false
  | delete p _ ih => exact ih.delete p

end Tree
end IndexShards
