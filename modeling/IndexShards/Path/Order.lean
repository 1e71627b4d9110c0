import IndexShards.Path.Basic

/-!
# The order of paths

Paths are ordered by their parts: the root first, then the single dot, the double dot, and the
names by their characters; a path stands before everything below it.  The order does not see how a
path is spelled, so it is a linear order up to equivalence.

## What is here

* `Ord Part` and its laws — the order of parts is linear.
* `Path.cmp` — the order of paths; `Path.cmp_eq_iff` says that it ties equivalent paths only.
* `Path.Before p q` — `p` stands before `q`.
-/

set_option autoImplicit false

namespace IndexShards

open Std

/-! ## Parts -/

/-- Where the kinds of parts stand. -/
def Part.rank : Part → Nat
  | root => 0
  | here => 1
  | up => 2
  | name _ => 3

/-- The text of a name. -/
def Part.label : Part → String
  | name s => s
  | _ => ""

theorem Part.rank_label_inj {a b : Part} (hr : a.rank = b.rank) (hl : a.label = b.label) :
    a = b := by
  cases a <;> cases b <;> simp_all [Part.rank, Part.label]

instance : Ord Part := ⟨compareLex (compareOn Part.rank) (compareOn Part.label)⟩

theorem Part.compare_def :
    (compare : Part → Part → Ordering) = compareLex (compareOn rank) (compareOn label) := rfl

instance : TransOrd Part :=
  inferInstanceAs (TransCmp (compareLex (compareOn Part.rank) (compareOn Part.label)))

instance : LawfulEqOrd Part where
  eq_of_compare := by
    intro a b h
    rw [Part.compare_def, compareLex_eq_eq] at h
    exact Part.rank_label_inj (LawfulEqOrd.eq_of_compare h.1) (LawfulEqOrd.eq_of_compare h.2)

/-! ## Paths -/

namespace Path

/-- The order of paths. -/
def cmp (p q : Path) : Ordering := compare p.parts q.parts

instance : TransCmp cmp := inferInstanceAs (TransCmp (compareOn Path.parts))

theorem cmp_eq_iff {p q : Path} : p.cmp q = .eq ↔ p ≈ q :=
  ⟨fun h => LawfulEqOrd.eq_of_compare h,
    fun h => by rw [cmp, equiv_iff.1 h]; exact ReflCmp.compare_self⟩

/-- The one path stands before the other. -/
def Before (p q : Path) : Prop := p.cmp q = .lt

instance (p q : Path) : Decidable (p.Before q) := inferInstanceAs (Decidable (_ = _))

theorem Before.trans {p q r : Path} (h : p.Before q) (k : q.Before r) : p.Before r :=
  TransCmp.lt_trans h k

theorem Before.not_equiv {p q : Path} (h : p.Before q) : ¬p ≈ q := fun e => by
  rw [Before, cmp_eq_iff.2 e] at h
  cases h

theorem Before.asymm {p q : Path} (h : p.Before q) : ¬q.Before p := fun k =>
  (h.trans k).not_equiv (equiv_iff.2 rfl)

theorem before_congr {p p' q q' : Path} (hp : p ≈ p') (hq : q ≈ q') :
    p.Before q ↔ p'.Before q' := by
  rw [Before, Before, cmp, cmp, equiv_iff.1 hp, equiv_iff.1 hq]

end Path
end IndexShards
