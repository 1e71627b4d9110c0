import IndexShards.Proofs.Tree.Listing

/-!
# What a creation leaves behind

Before a tree gets an entry, the directories above it that are missing are created, the nearest
one first.  The climb ends at the empty path, or at a file, and in the second case the directories
between the file and the path have been created already.

## What is here

* `Climb t p answer n` — how the climb from `p` ends: at the top, or at a file with `n` parts.
* `Filled t t' p n` — `t'` is `t` with the directories strictly above `p` that have more than `n`
  parts and are missing in `t`.
* `filled_createAncestors` — **the climb from `p` fills everything above `p`, or everything
  between `p` and the first file above it**, and tells which.
-/

set_option autoImplicit false

namespace IndexShards
namespace Tree

/-- The tree `t'` is `t`, with directories at those places strictly above `p` that have more than
`n` parts, as far as there was nothing. -/
def Filled (t t' : Tree) (p : Path) (n : Nat) : Prop :=
  ∀ x, t'.kind? x = (t.kind? x).or
    (if x.IsAbove p ∧ n < x.parts.length then some true else none)

theorem filled_refl_of_forall {t : Tree} {p : Path} {n : Nat}
    (h : ∀ x : Path, x.IsAbove p → x.parts.length ≤ n) : Filled t t p n := by
  intro x
  rw [if_neg fun hx => absurd (h x hx.1) (Nat.not_le.2 hx.2), Option.or_none]

/-- Filling from a child whose parent is a directory is filling from the parent. -/
theorem Filled.of_parent {t t' : Tree} {p q : Path} {n : Nat} (hq : p.IsChildOf q)
    (hk : t.kind? q = some true) (h : Filled t t' q n) : Filled t t' p n := by
  intro x
  rw [h x]
  by_cases hx : x ≈ q
  · rw [t.kind?_congr hx, hk, Option.some_or, Option.some_or]
  · have hiff : x.IsAbove p ↔ x.IsAbove q :=
      hq.isAbove_iff.trans ⟨fun h => ⟨h, hx⟩, fun h => h.1⟩
    simp only [hiff]

/-- If the parent is missing it is filled in first. -/
theorem Filled.of_put {t t' : Tree} {p q : Path} {n : Nat} (hq : p.IsChildOf q)
    (hk : t.kind? q = none) (hn : n < q.parts.length) (h : Filled (t.put q true) t' q n) :
    Filled t t' p n := by
  have hq' : (t.put q true).kind? q = some true := by
    rw [kind?_put, if_pos (Path.equiv_refl q)]
  intro x
  rw [h.of_parent hq hq' x, kind?_put]
  by_cases hx : q ≈ x
  · have habove : x.IsAbove p ∧ n < x.parts.length := by
      refine ⟨hq.isAbove_iff.2 (Path.isAtOrAbove_of_equiv (Path.equiv_symm hx)), ?_⟩
      rw [← Path.equiv_iff.1 hx]
      exact hn
    rw [if_pos hx, ← t.kind?_congr hx, hk, if_pos habove, Option.some_or, Option.none_or]
  · rw [if_neg hx]

/-- How a climb from `p` ends: it gets past all ancestors, none of which is a file, or meets a file
among them. -/
inductive Climb (t : Tree) (p : Path) : Except Error Unit → Nat → Prop
  | top (hclear : ∀ a : Path, a.IsAbove p → a.parts ≠ [] → t.kind? a ≠ some false) :
      Climb t p (.ok ()) 0
  | file {a : Path} (habove : a.IsAbove p) (hpos : a.parts ≠ []) (hk : t.kind? a = some false) :
      Climb t p (.error (.storage (.isFile a))) a.parts.length

/-- Above a path whose ancestors have no parts there is nothing to climb past. -/
theorem Climb.top_of_forall {t : Tree} {p : Path}
    (h : ∀ x : Path, x.IsAbove p → x.parts.length ≤ 0) : Climb t p (.ok ()) 0 :=
  Climb.top fun a ha hne => absurd (List.length_pos_iff.2 hne) (Nat.not_lt.2 (h a ha))

theorem Climb.of_parent {t : Tree} {p q : Path} {answer : Except Error Unit} {n : Nat}
    (hq : p.IsChildOf q) (hk : t.kind? q ≠ some false) (h : Climb t q answer n) :
    Climb t p answer n := by
  cases h with
  | top hclear =>
    refine Climb.top fun a ha hne => ?_
    rcases Path.isAtOrAbove_iff_isAbove.1 (hq.isAbove_iff.1 ha) with he | habove
    · rw [t.kind?_congr he]
      exact hk
    · exact hclear a habove hne
  | file habove hpos hk => exact Climb.file (hq.isAbove_iff.2 habove.1) hpos hk

/-- A directory at `q` itself is not in the way of a climb from `q`. -/
theorem Climb.of_put {t : Tree} {q : Path} {answer : Except Error Unit} {n : Nat}
    (h : Climb (t.put q true) q answer n) : Climb t q answer n := by
  cases h with
  | top hclear =>
    refine Climb.top fun a ha hne => ?_
    have hsame : (t.put q true).kind? a = t.kind? a := by
      rw [kind?_put, if_neg fun h => ha.2 (Path.equiv_symm h)]
    rw [← hsame]
    exact hclear a ha hne
  | file habove hpos hk =>
    rw [kind?_put, if_neg fun h => habove.2 (Path.equiv_symm h)] at hk
    exact Climb.file habove hpos hk

theorem Climb.lt_length {t : Tree} {p : Path} {answer : Except Error Unit} {n : Nat}
    (h : Climb t p answer n) (hp : p.parts ≠ []) : n < p.parts.length := by
  cases h with
  | top => exact List.length_pos_iff.2 hp
  | file habove => exact (Path.isAbove_iff.1 habove).2

/-- **The climb from a path fills everything above it, or everything down from the first file that
is above it.** -/
theorem filled_createAncestors (t : Tree) (p : Path) :
    ∃ n, Climb t p (createAncestors p.ancestors t).1 n ∧
      Filled t (createAncestors p.ancestors t).2 p n := by
  generalize hl : p.parts.length = l
  induction l using Nat.strongRecOn generalizing p t with
  | ind l ih =>
    rw [Path.ancestors_eq]
    cases hp : p.parent? with
    | none =>
      have hle : ∀ x : Path, x.IsAbove p → x.parts.length ≤ 0 := fun x hx => by
        have hlt := (Path.isAbove_iff.1 hx).2
        rcases Path.parent?_eq_none_iff.1 hp with h | h
        · rw [h] at hlt; exact absurd hlt (Nat.not_lt_zero _)
        · rw [h] at hlt; exact Nat.lt_succ_iff.1 hlt
      exact ⟨0, Climb.top_of_forall hle, filled_refl_of_forall hle⟩
    | some q =>
      have hq : p.IsChildOf q := Path.isChildOf_of_parent? hp
      have hlt : q.parts.length < l := hl ▸ hq.length_lt
      have hle : ∀ x : Path, x.IsAbove p → x.parts.length ≤ q.parts.length := fun x hx =>
        (Path.isAtOrAbove_iff.1 (hq.isAbove_iff.1 hx)).length_le
      simp only [createAncestors]
      by_cases he : q.isEmpty = true
      · rw [if_pos he]
        rw [Path.isEmpty_iff.1 he] at hle
        exact ⟨0, Climb.top_of_forall hle, filled_refl_of_forall hle⟩
      · have hne : q.parts ≠ [] := fun h => he (Path.isEmpty_iff.2 h)
        rw [if_neg he]
        cases hk : t.kind? q with
        | none =>
          obtain ⟨n, hclimb, hfill⟩ := ih _ hlt (t.put q true) q rfl
          have hkq : t.kind? q ≠ some false := fun h => by rw [hk] at h; cases h
          exact ⟨n, hclimb.of_put.of_parent hq hkq, hfill.of_put hq hk (hclimb.lt_length hne)⟩
        | some b =>
          cases b with
          | false =>
            have hqp : q.IsAbove p := hq.isAbove_iff.2 (Path.isAtOrAbove_refl q)
            exact ⟨_, Climb.file hqp hne hk, filled_refl_of_forall hle⟩
          | true =>
            obtain ⟨n, hclimb, hfill⟩ := ih _ hlt t q rfl
            have hkq : t.kind? q ≠ some false := fun h => by rw [hk] at h; cases h
            exact ⟨n, hclimb.of_parent hq hkq, hfill.of_parent hq hk⟩

/-- The places of a filled tree are those it had, and those it was filled in at. -/
theorem Filled.contains_iff {t t' : Tree} {p : Path} {n : Nat} (h : Filled t t' p n) (x : Path) :
    t'.contains x = true ↔ t.contains x = true ∨ x.IsAbove p ∧ n < x.parts.length := by
  rw [contains_eq_isSome_kind?, contains_eq_isSome_kind?, h x, Option.isSome_or, Bool.or_eq_true]
  by_cases hx : x.IsAbove p ∧ n < x.parts.length <;> simp [hx]

theorem contains_put_iff (t : Tree) (p q : Path) (isDir : Bool) :
    (t.put p isDir).contains q = true ↔ p ≈ q ∨ t.contains q = true := by
  rw [contains_eq_isSome_kind?, contains_eq_isSome_kind?, kind?_put]
  by_cases h : p ≈ q <;> simp [h]

end Tree
end IndexShards
