import IndexShards.Path.Ancestors
import IndexShards.Path.Order

/-!
# Above, below, and directly below

Deletion goes by prefixes of parts, listing goes by parents, and both read entries that stand in
path order.  This file has what the three relations have to do with each other.

## What is here

* `isAtOrAbove_refl`, `isAtOrAbove_trans`, `isAtOrAbove_congr` — being at or above a path is a
  preorder that does not see how a path is spelled.
* `IsChildOf p d` — `p` is directly below `d`.  `isChildOf_iff` says it in parts.
* `IsAbove p q` — `p` is strictly above `q`.  Above a child are its parent and what is above that.
* `Meets p q` — one of two paths is at or above the other; else nothing lies below both.
* `isAtOrAbove_of_before` — **what is at or below a path is one block of the order**: a path that
  stands between `p` and something below `p` is below `p` itself.
* `parts_eq_nil_iff` — only the empty text has no parts, so joining a name to a path never gives the
  empty path (`parts_join_ne_nil`).
-/

set_option autoImplicit false

namespace IndexShards
namespace Path

open Std Text

/-! ## At or above -/

theorem isAtOrAbove_refl (p : Path) : p.isAtOrAbove p = true :=
  isAtOrAbove_iff.2 (List.prefix_refl _)

theorem isAtOrAbove_trans {p q r : Path} (h : p.isAtOrAbove q = true)
    (k : q.isAtOrAbove r = true) : p.isAtOrAbove r = true :=
  isAtOrAbove_iff.2 ((isAtOrAbove_iff.1 h).trans (isAtOrAbove_iff.1 k))

theorem isAtOrAbove_congr {p p' q q' : Path} (hp : p ≈ p') (hq : q ≈ q') :
    p.isAtOrAbove q = p'.isAtOrAbove q' := by
  rw [isAtOrAbove, isAtOrAbove, equiv_iff.1 hp, equiv_iff.1 hq]

theorem isAtOrAbove_of_equiv {p q : Path} (h : p ≈ q) : p.isAtOrAbove q = true := by
  rw [isAtOrAbove_congr h (equiv_refl q)]
  exact isAtOrAbove_refl q

/-- Of two paths above a third, one is above the other. -/
theorem isAtOrAbove_total_of_isAtOrAbove {p q r : Path} (h : p.isAtOrAbove r = true)
    (k : q.isAtOrAbove r = true) (hl : p.parts.length ≤ q.parts.length) :
    p.isAtOrAbove q = true :=
  isAtOrAbove_iff.2 (List.prefix_of_prefix_length_le (isAtOrAbove_iff.1 h) (isAtOrAbove_iff.1 k) hl)

/-! ## Directly below -/

/-- The path is directly below `d`, however `d` is spelled. -/
def IsChildOf (p d : Path) : Prop := ∃ q, p.parent? = some q ∧ q ≈ d

theorem any_parent?_iff {p d : Path} :
    (p.parent?.any fun q => decide (q ≈ d)) = true ↔ p.IsChildOf d := by
  rw [Option.any_eq_true, IsChildOf]
  simp only [decide_eq_true_eq]

instance (p d : Path) : Decidable (p.IsChildOf d) := decidable_of_iff _ any_parent?_iff

/-- A path is directly below `d` if it has one part more. -/
theorem isChildOf_iff {p d : Path} :
    p.IsChildOf d ↔ d.parts = p.parts.dropLast ∧ p.parts ≠ [] ∧ p.parts ≠ [.root] := by
  constructor
  · rintro ⟨q, hq, he⟩
    refine ⟨by rw [← equiv_iff.1 he, parts_parent? hq], fun h => ?_, fun h => ?_⟩
    · rw [parent?_eq_none_iff.2 (Or.inl h)] at hq
      cases hq
    · rw [parent?_eq_none_iff.2 (Or.inr h)] at hq
      cases hq
  · rintro ⟨hd, hne, hroot⟩
    cases hq : p.parent? with
    | none => exact absurd (parent?_eq_none_iff.1 hq) (by simp [hne, hroot])
    | some q => exact ⟨q, hq, equiv_iff.2 (by rw [parts_parent? hq, hd])⟩

theorem isChildOf_congr {p p' d d' : Path} (hp : p ≈ p') (hd : d ≈ d') :
    p.IsChildOf d ↔ p'.IsChildOf d' := by
  rw [isChildOf_iff, isChildOf_iff, equiv_iff.1 hp, equiv_iff.1 hd]

theorem IsChildOf.isAtOrAbove {p d : Path} (h : p.IsChildOf d) : d.isAtOrAbove p = true := by
  rw [isAtOrAbove_iff, (isChildOf_iff.1 h).1]
  exact List.dropLast_prefix _

theorem IsChildOf.length_lt {p d : Path} (h : p.IsChildOf d) :
    d.parts.length < p.parts.length := by
  obtain ⟨hd, hne, -⟩ := isChildOf_iff.1 h
  have hpos := List.length_pos_iff.2 hne
  rw [hd, List.length_dropLast]
  omega

theorem IsChildOf.not_equiv {p d : Path} (h : p.IsChildOf d) : ¬p ≈ d := fun he => by
  have hlt := h.length_lt
  rw [equiv_iff.1 he] at hlt
  exact absurd hlt (Nat.lt_irrefl _)

theorem isChildOf_of_parent? {p q : Path} (h : p.parent? = some q) : p.IsChildOf q :=
  ⟨q, h, equiv_refl q⟩

/-! ## Strictly above -/

/-- The path `q` is below `p`, and not at it. -/
def IsAbove (p q : Path) : Prop := p.isAtOrAbove q = true ∧ ¬p ≈ q

instance (p q : Path) : Decidable (p.IsAbove q) := inferInstanceAs (Decidable (_ ∧ _))

theorem isAbove_iff {p q : Path} :
    p.IsAbove q ↔ p.isAtOrAbove q = true ∧ p.parts.length < q.parts.length := by
  refine and_congr_right fun h => ?_
  have hpre := isAtOrAbove_iff.1 h
  constructor
  · intro hne
    refine Nat.lt_of_le_of_ne hpre.length_le fun hl => hne (equiv_iff.2 ?_)
    exact hpre.eq_of_length hl
  · intro hlt he
    rw [equiv_iff.1 he] at hlt
    exact absurd hlt (Nat.lt_irrefl _)

theorem isAtOrAbove_iff_isAbove {p q : Path} :
    p.isAtOrAbove q = true ↔ p ≈ q ∨ p.IsAbove q := by
  constructor
  · intro h
    by_cases he : p ≈ q
    · exact Or.inl he
    · exact Or.inr ⟨h, he⟩
  · rintro (h | h)
    · exact isAtOrAbove_of_equiv h
    · exact h.1

/-- What is strictly above a child is at or above its parent. -/
theorem IsChildOf.isAbove_iff {p d r : Path} (h : p.IsChildOf d) :
    r.IsAbove p ↔ r.isAtOrAbove d = true := by
  constructor
  · rintro ⟨hr, hne⟩
    obtain ⟨hd, hp, -⟩ := isChildOf_iff.1 h
    rw [isAtOrAbove_iff] at hr ⊢
    rw [← List.dropLast_concat_getLast hp, List.prefix_concat_iff] at hr
    rw [hd]
    refine hr.resolve_left fun he => hne (equiv_iff.2 ?_)
    rw [he, List.dropLast_concat_getLast hp]
  · intro hr
    refine Path.isAbove_iff.2 ⟨isAtOrAbove_trans hr h.isAtOrAbove, ?_⟩
    exact Nat.lt_of_le_of_lt (isAtOrAbove_iff.1 hr).length_le h.length_lt

/-! ## Two directories -/

/-- One of the two paths is at or above the other. -/
def Meets (p q : Path) : Prop := p.isAtOrAbove q = true ∨ q.isAtOrAbove p = true

instance (p q : Path) : Decidable (p.Meets q) := inferInstanceAs (Decidable (_ ∨ _))

/-- Two paths meet if something is at or below both of them. -/
theorem meets_iff {p q : Path} :
    p.Meets q ↔ ∃ r : Path, p.isAtOrAbove r = true ∧ q.isAtOrAbove r = true := by
  constructor
  · rintro (h | h)
    · exact ⟨q, h, isAtOrAbove_refl q⟩
    · exact ⟨p, isAtOrAbove_refl p, h⟩
  · rintro ⟨r, hp, hq⟩
    rcases Nat.le_total p.parts.length q.parts.length with hl | hl
    · exact Or.inl (isAtOrAbove_total_of_isAtOrAbove hp hq hl)
    · exact Or.inr (isAtOrAbove_total_of_isAtOrAbove hq hp hl)

/-! ## The order -/

/-- Between a list and its continuations stand only its continuations. -/
theorem prefix_of_compare {α : Type} [Ord α] [LawfulEqOrd α] [OrientedOrd α] :
    ∀ {ps xs ys : List α}, compare ps xs ≠ .gt → compare xs ys ≠ .gt → ps <+: ys → ps <+: xs
  | [], xs, _, _, _, _ => List.nil_prefix
  | p :: ps, [], _, h, _, _ => absurd List.compare_cons_nil h
  | p :: ps, x :: xs, [], _, _, hp => by simp at hp
  | p :: ps, x :: xs, y :: ys, h, k, hp => by
    obtain ⟨rfl, htail⟩ := List.cons_prefix_cons.1 hp
    rw [List.compare_cons_cons] at h k
    have hpx : compare p x = .eq := by
      cases hc : compare p x with
      | eq => rfl
      | gt => simp [hc] at h
      | lt => simp [OrientedCmp.gt_of_lt hc] at k
    obtain rfl := LawfulEqCmp.eq_of_compare hpx
    simp only [hpx, Ordering.then] at h k
    exact List.cons_prefix_cons.2 ⟨rfl, prefix_of_compare h k htail⟩

/-- A path stands before everything below it. -/
theorem compare_ne_gt_of_prefix {α : Type} [Ord α] [LawfulEqOrd α] :
    ∀ {ps xs : List α}, ps <+: xs → compare ps xs ≠ .gt
  | [], [], _ => by simp
  | [], x :: xs, _ => by simp [List.compare_nil_cons]
  | p :: ps, [], h => by simp at h
  | p :: ps, x :: xs, h => by
    obtain ⟨rfl, htail⟩ := List.cons_prefix_cons.1 h
    rw [List.compare_cons_cons, LawfulEqOrd.compare_eq_iff_eq.2 rfl]
    exact compare_ne_gt_of_prefix htail

/-- **What is at or below a path is one block of the order.** -/
theorem isAtOrAbove_of_before {p q r : Path} (hq : ¬q.Before p) (hr : q.Before r)
    (h : p.isAtOrAbove r = true) : p.isAtOrAbove q = true := by
  rw [isAtOrAbove_iff] at h ⊢
  refine prefix_of_compare (fun hg => hq ?_) (fun hg => ?_) h
  · exact OrientedCmp.lt_of_gt hg
  · rw [Before, cmp, hg] at hr
    cases hr

theorem not_before_of_isAtOrAbove {p q : Path} (h : p.isAtOrAbove q = true) : ¬q.Before p :=
  fun hb => compare_ne_gt_of_prefix (isAtOrAbove_iff.1 h) (OrientedCmp.gt_of_lt hb)

/-! ## The empty path -/

/-- **Only the empty text has no parts.** -/
theorem parts_eq_nil_iff {p : Path} : p.parts = [] ↔ p.text = "" := by
  obtain ⟨s⟩ := p
  rw [← String.toList_eq_nil_iff]
  change partsOf s.toList = [] ↔ _
  generalize s.toList = cs
  refine ⟨fun h => ?_, fun h => by rw [h]; rfl⟩
  obtain ⟨hlead, hps⟩ := List.append_eq_nil_iff.1 h
  have hj := lead_append_joined_split cs
  have hw := wellSplit_split cs
  cases hl : (split cs).1 with
  | slash => rw [hl] at hlead; cases hlead
  | dot => rw [hl] at hlead; cases hlead
  | plain =>
    rw [hl] at hj
    cases hs : (split cs).2 with
    | nil => exact absurd hs (split_ne_nil cs)
    | cons p ps =>
      rw [hs] at hps hj
      -- the first piece of a plain text stands for no part only if it is the whole text
      have hp : p = [] := by
        have hnone : partOf? p = none := by
          cases hpo : partOf? p with
          | none => rfl
          | some a => simp [hpo] at hps
        have hdot : p ≠ ['.'] := fun he => hw.notDot hl (by rw [hs, he]; rfl)
        unfold partOf? at hnone
        split at hnone
        · rfl
        · exact absurd rfl hdot
        · cases hnone
        · cases hnone
      subst hp
      obtain rfl := hw.notSlash hl ps hs
      exact hj.symm

theorem isEmpty_iff {p : Path} : p.isEmpty = true ↔ p.parts = [] := by
  rw [isEmpty, beq_iff_eq, parts_eq_nil_iff]

theorem isEmpty_eq_false_iff {p : Path} : p.isEmpty = false ↔ p.parts ≠ [] := by
  rw [Bool.eq_false_iff, Ne, isEmpty_iff]

/-- Joining a name to a path never gives the empty path. -/
theorem parts_join_ne_nil {p : Path} {s : String} (h : s ≠ "") : (p.join s).parts ≠ [] := by
  rw [Ne, parts_eq_nil_iff, join]
  split
  · exact h
  · exact h
  · simpa using fun _ => h
  · simp

end Path
end IndexShards
