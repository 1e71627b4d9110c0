import IndexShards.Proofs.Runs
import IndexShards.Proofs.Tree.Success
import Mathlib.Data.List.Perm.Basic

/-!
# Creating in any order

Write tasks that run side by side create their directories and files in whatever order they get to
it.  A creation makes the directories above its path as well, so whether it succeeds depends on what
the others have made by then, and the spelling that a place keeps is the one of whoever came first.

In the end neither can be seen.  A creation adds a kind to some places, and two creations are in
each other's way if they add different kinds to one place.  That is said of both at once, so it does
not matter which of the two is made first; and where no two are in each other's way, what a place
gets is the same from whichever creation it gets it.

## What is here

* `Agrees e d` — the creations of two entries are not in each other's way.
* `admits_iff_gained`, `Gains.admits_iff` — **what a creation changes for another one**: after it
  the other is admitted if it was before and the two agree.
* `makeAll` — creations one after another; `makeAll_ok_iff` says **when all of them succeed**, and
  `kind?_makeAll` **what they leave**, neither of which depends on the order.
* `Entry.place`, `SameView` — an entry without its spelling, and trees that look the same.
* `sameView_of_perm` — **creations that succeed in one order succeed in every order, and the trees
  they leave look the same**.
-/

set_option autoImplicit false

namespace IndexShards

open Std

/-- What an entry is when its spelling does not count: the parts of its path, and its kind. -/
def Entry.place (e : Entry) : List Part × Bool := (e.path.parts, e.isDir)

namespace Tree

variable {t t' : Tree} {p x : Path} {isDir b : Bool} {e d : Entry} {es ds : List Entry}

/-! ## Two creations -/

theorem gained_eq_some_iff : gained p isDir x = some b ↔
    x ≈ p ∧ isDir = b ∨ (x.IsAbove p ∧ x.isEmpty = false) ∧ true = b := by
  rw [gained]
  by_cases hx : x ≈ p
  · have hnot : ¬x.IsAbove p := fun h => h.2 hx
    simp [hx, hnot]
  · by_cases habove : x.IsAbove p ∧ x.isEmpty = false
    · simp [hx, habove]
    · rw [if_neg hx, if_neg habove]
      simp [hx, habove]

/-- An entry is admitted if no place that its creation adds a kind to has the other kind. -/
theorem admits_iff_gained : t.Admits p isDir ↔
    ∀ x b, gained p isDir x = some b → t.kind? x ≠ some !b := by
  constructor
  · intro h x b hb
    rcases gained_eq_some_iff.1 hb with ⟨hx, rfl⟩ | ⟨⟨habove, hne⟩, rfl⟩
    · rw [t.kind?_congr hx]
      exact h.free
    · exact h.clear x habove hne
  · intro h
    refine ⟨h p isDir ?_, fun a ha hne => h a true ?_⟩
    · exact gained_eq_some_iff.2 (Or.inl ⟨Path.equiv_refl p, rfl⟩)
    · exact gained_eq_some_iff.2 (Or.inr ⟨⟨ha, hne⟩, rfl⟩)

/-- The creations of the two entries add different kinds to no place. -/
def Agrees (e d : Entry) : Prop :=
  ∀ x b c, gained e.path e.isDir x = some b → gained d.path d.isDir x = some c → b = c

theorem Agrees.symm (h : Agrees e d) : Agrees d e := fun x b c hb hc => (h x c b hc hb).symm

/-- **After a creation another entry is admitted if it was before and the two agree.** -/
theorem Gains.admits_iff (h : Gains t t' e.path e.isDir) (he : t.Admits e.path e.isDir) :
    t'.Admits d.path d.isDir ↔ t.Admits d.path d.isDir ∧ Agrees e d := by
  simp only [admits_iff_gained] at he ⊢
  constructor
  · intro hd
    refine ⟨fun x c hc hk => hd x c hc ?_, fun x b c hb hc => ?_⟩
    · rw [h.kind?_eq, hk, Option.some_or]
    · have hafter := hd x c hc
      rw [h.kind?_eq, hb, kind?_or_self (he x b hb)] at hafter
      by_contra hne
      exact hafter (congrArg some (Bool.eq_not_of_ne hne))
  · rintro ⟨hd, hagrees⟩ x c hc hk
    rw [h.kind?_eq, Option.or_eq_some_iff] at hk
    rcases hk with hk | ⟨-, hgained⟩
    · exact hd x c hc hk
    · have hself := hagrees x _ c hgained hc
      cases c <;> cases hself

/-! ## Many creations -/

/-- Makes the entries one after another, with all that they need above them. -/
def makeAll (t : Tree) (es : List Entry) : List (Except Error Unit) × Tree :=
  runCalls (fun t e => t.make e.path e.isDir) t es

theorem makeAll_cons : t.makeAll (e :: es) =
    ((t.make e.path e.isDir).1 :: ((t.make e.path e.isDir).2.makeAll es).1,
      ((t.make e.path e.isDir).2.makeAll es).2) := rfl

/-- **All creations succeed exactly if the tree admits each of them at the start and any two of them
agree.** -/
theorem makeAll_ok_iff : (∀ answer ∈ (t.makeAll es).1, answer = .ok ()) ↔
    (∀ e ∈ es, t.Admits e.path e.isDir) ∧ es.Pairwise Agrees := by
  induction es generalizing t with
  | nil => simp [makeAll, runCalls]
  | cons e es ih =>
    rw [makeAll_cons, List.forall_mem_cons, List.forall_mem_cons, List.pairwise_cons, ih,
      make_ok_iff, and_assoc]
    refine and_congr_right fun he => ?_
    have hstep : ∀ d ∈ es, (t.make e.path e.isDir).2.Admits d.path d.isDir ↔
        t.Admits d.path d.isDir ∧ Agrees e d := fun d _ =>
      (gains_make (make_ok_iff.2 he)).admits_iff he
    rw [forall₂_congr hstep]
    simp only [forall_and, and_assoc]

/-- **What creations leave**: what was there, and where nothing was, what one of them adds. -/
theorem kind?_makeAll (hok : ∀ answer ∈ (t.makeAll es).1, answer = .ok ()) (x : Path) (b : Bool) :
    (t.makeAll es).2.kind? x = some b ↔
      t.kind? x = some b ∨ t.kind? x = none ∧ ∃ e ∈ es, gained e.path e.isDir x = some b := by
  induction es generalizing t with
  | nil => simp [makeAll, runCalls]
  | cons e es ih =>
    have hagrees := (List.pairwise_cons.1 (makeAll_ok_iff.1 hok).2).1
    rw [makeAll_cons, List.forall_mem_cons] at hok
    rw [makeAll_cons, ih hok.2, (gains_make hok.1).kind?_eq, Option.or_eq_some_iff,
      Option.or_eq_none_iff]
    simp only [List.mem_cons, or_and_right, exists_or, exists_eq_left]
    constructor
    · rintro ((hk | ⟨hk, hb⟩) | ⟨⟨hk, -⟩, hd⟩)
      · exact Or.inl hk
      · exact Or.inr ⟨hk, Or.inl hb⟩
      · exact Or.inr ⟨hk, Or.inr hd⟩
    · rintro (hk | ⟨hk, hb | ⟨d, hd, hb⟩⟩)
      · exact Or.inl (Or.inl hk)
      · exact Or.inl (Or.inr ⟨hk, hb⟩)
      · -- the first creation may have added the kind already, and then it is the same one
        cases hfirst : gained e.path e.isDir x with
        | none => exact Or.inr ⟨⟨hk, rfl⟩, d, hd, hb⟩
        | some c => exact Or.inl (Or.inr ⟨hk, congrArg some (hagrees d hd x c b hfirst hb)⟩)

/-- In another order the creations succeed as well, and leave the same kind at every place. -/
theorem makeAll_perm (hperm : es.Perm ds) (hok : ∀ answer ∈ (t.makeAll es).1, answer = .ok ()) :
    (∀ answer ∈ (t.makeAll ds).1, answer = .ok ()) ∧
      ∀ x, (t.makeAll es).2.kind? x = (t.makeAll ds).2.kind? x := by
  obtain ⟨hadmits, hpairs⟩ := makeAll_ok_iff.1 hok
  have hok' : ∀ answer ∈ (t.makeAll ds).1, answer = .ok () := by
    refine makeAll_ok_iff.2 ⟨fun d hd => hadmits d (hperm.mem_iff.2 hd), ?_⟩
    exact (hperm.pairwise_iff Agrees.symm).1 hpairs
  refine ⟨hok', fun x => Option.ext fun b => ?_⟩
  rw [kind?_makeAll hok, kind?_makeAll hok']
  simp only [hperm.mem_iff]

/-! ## Trees that look the same -/

/-- Two trees look the same if the spelling of paths does not count: they have the same places in
the same order, and at every path they answer the same, be it asked whether something is there or
for a listing, by a test that does not see the spelling. -/
structure SameView (t t' : Tree) : Prop where
  entries : t.entries.map Entry.place = t'.entries.map Entry.place
  contains : ∀ p, Tree.fileSystem.contains t p = Tree.fileSystem.contains t' p
  list : ∀ p (test : List Part × Bool → Bool),
    (Tree.fileSystem.list t p fun e => test e.place).map (List.map Entry.place) =
      (Tree.fileSystem.list t' p fun e => test e.place).map (List.map Entry.place)

/-- The places of a tree are its kinds. -/
theorem mem_map_place_iff {c : List Part × Bool} :
    c ∈ t.entries.map Entry.place ↔ ∃ p : Path, p.parts = c.1 ∧ t.kind? p = some c.2 := by
  simp only [kind?_eq_some_iff, List.mem_map]
  constructor
  · rintro ⟨e, he, rfl⟩
    exact ⟨e.path, rfl, e, he, Path.equiv_refl _, rfl⟩
  · rintro ⟨p, hp, e, he, hep, hkind⟩
    exact ⟨e, he, Prod.ext ((Path.equiv_iff.1 hep).trans hp) hkind⟩

/-- Places stand in the order of their parts. -/
theorem pairwise_map_place (t : Tree) :
    (t.entries.map Entry.place).Pairwise fun a b => compare a.1 b.1 = .lt :=
  List.pairwise_map.2 t.inOrder

theorem map_place_eq (h : ∀ x, t.kind? x = t'.kind? x) :
    t.entries.map Entry.place = t'.entries.map Entry.place := by
  have hnodup : ∀ s : Tree, (s.entries.map Entry.place).Nodup := fun s =>
    s.pairwise_map_place.imp fun {a b} hab heq => by
      rw [heq, ReflOrd.compare_self] at hab
      cases hab
  have hperm : (t.entries.map Entry.place).Perm (t'.entries.map Entry.place) :=
    (List.perm_ext_iff_of_nodup (hnodup t) (hnodup t')).2 fun c => by
      simp only [mem_map_place_iff, h]
  refine List.Perm.eq_of_pairwise ?_ t.pairwise_map_place t'.pairwise_map_place hperm
  intro a b _ _ hab hba
  rw [OrientedCmp.gt_of_lt hab] at hba
  cases hba

/-- Whether an entry is directly below a path can be told from its place. -/
theorem isChildOf_iff_place : e.path.IsChildOf p ↔
    p.parts = e.place.1.dropLast ∧ e.place.1 ≠ [] ∧ e.place.1 ≠ [.root] :=
  Path.isChildOf_iff

/-- **Trees with the same kinds look the same.** -/
theorem sameView_of_kind?_eq (h : ∀ x, t.kind? x = t'.kind? x) : SameView t t' := by
  refine ⟨map_place_eq h, fun p => ?_, fun p test => ?_⟩
  · show Except.ok (t.contains p) = .ok (t'.contains p)
    rw [contains_eq_isSome_kind?, contains_eq_isSome_kind?, h]
  · show (t.list p _).map _ = (t'.list p _).map _
    rw [list_eq, list_eq, h]
    rcases t'.kind? p with _ | _ | _
    · rfl
    · rfl
    · have hfilter : ∀ s : Tree, (s.entries.filter fun e =>
          decide (e.path.IsChildOf p) && test e.place).map Entry.place =
          (s.entries.map Entry.place).filter fun c =>
            decide (p.parts = c.1.dropLast ∧ c.1 ≠ [] ∧ c.1 ≠ [.root]) && test c := fun s => by
        rw [List.filter_map]
        simp only [isChildOf_iff_place]
        rfl
      show Except.ok _ = Except.ok _
      rw [hfilter t, hfilter t', map_place_eq h]

/-- **The order of creations does not matter.**  If directories and files are created one after
another and all of this succeeds, it succeeds in every other order as well, and the trees that the
two orders lead to look the same. -/
theorem sameView_of_perm (t : Tree) {es ds : List Entry} (hperm : es.Perm ds)
    (hok : ∀ answer ∈ (t.makeAll es).1, answer = .ok ()) :
    (∀ answer ∈ (t.makeAll ds).1, answer = .ok ()) ∧
      SameView (t.makeAll es).2 (t.makeAll ds).2 := by
  obtain ⟨hok', hkind⟩ := makeAll_perm hperm hok
  exact ⟨hok', sameView_of_kind?_eq hkind⟩

/-- Two write tasks spell the directory of their segment in different ways.  Whoever is first, both
succeed, and the same directories are listed below it, though not in the same spelling. -/
theorem sameView_of_two_tasks :
    let t := (empty.createDir ⟨"/t/0"⟩).2
    let es : List Entry := [⟨⟨"/t/0/idx/a"⟩, true⟩, ⟨⟨"/t//0/./idx//b/f"⟩, false⟩]
    (∀ answer ∈ (t.makeAll es).1, answer = .ok ()) ∧
      (∀ answer ∈ (t.makeAll es.reverse).1, answer = .ok ()) ∧
      (t.makeAll es).2.entries ≠ (t.makeAll es.reverse).2.entries ∧
      SameView (t.makeAll es).2 (t.makeAll es.reverse).2 ∧
      (Tree.fileSystem.listDirectories (t.makeAll es).2 ⟨"/t/0/idx"⟩).map (List.map Entry.place) =
        (Tree.fileSystem.listDirectories (t.makeAll es.reverse).2 ⟨"/t/0/idx"⟩).map
          (List.map Entry.place) := by
  intro t es
  have hok : ∀ answer ∈ (t.makeAll es).1, answer = .ok () := by decide +kernel
  obtain ⟨hok', hsame⟩ := sameView_of_perm t es.reverse_perm.symm hok
  exact ⟨hok, hok', by decide +kernel, hsame, hsame.list ⟨"/t/0/idx"⟩ Prod.snd⟩

end Tree
end IndexShards
