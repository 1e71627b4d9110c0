import IndexShards.Proofs.Path.Below
import IndexShards.Storage.Tree
import Mathlib.Data.List.Pairwise

/-!
# What a listing of a tree shows

`Tree.list` does not look at the whole tree.  It reads the stretch of entries that starts at the
directory and ends before the first entry that is not below it.  Since everything below a path is
one block of the order, this loses nothing.

## What is here

* `eq_of_equiv` — a tree has at most one entry at a place, so `kind?_eq_some_iff` and
  `contains_iff` say of the entries what `kind?` and `contains` say of the tree.
* `list_eq` — **a listing shows exactly the accepted entries of the whole tree whose parent is the
  directory**, in the order of the tree; of a file it is an error, and of a missing path empty.
* `countP_equiv` — how often a place turns up among the entries.
* `InOrder.eq_of_mem_iff` — entries in path order are known by what is among them, so `list_exact`
  can say **what a listing shows, each entry once and in path order**, without saying how it is
  found.
-/

set_option autoImplicit false

namespace IndexShards

open Std

/-! ## Entries in path order -/

/-- No entry stands twice in path order. -/
theorem InOrder.nodup {es : List Entry} (h : InOrder es) : es.Nodup := by
  refine List.Pairwise.imp ?_ h
  rintro d e hde rfl
  exact hde.not_equiv (Path.equiv_refl d.path)

/-- Entries in path order are known by what is among them. -/
theorem InOrder.eq_of_mem_iff {es ds : List Entry} (hes : InOrder es) (hds : InOrder ds)
    (h : ∀ e, e ∈ es ↔ e ∈ ds) : es = ds := by
  have hperm : es.Perm ds := (List.perm_ext_iff_of_nodup hes.nodup hds.nodup).2 h
  refine List.Perm.eq_of_pairwise ?_ hes hds hperm
  intro d e _ _ hde hed
  exact absurd hed hde.asymm

/-! ## Filters of a stretch -/

/-- Where `P` holds on one block from the front, only the block has to be looked at for what
implies `P`. -/
theorem filter_takeWhile_of_block {α : Type} {P Q : α → Bool} {l : List α}
    (hblock : l.Pairwise fun x y => P y = true → P x = true)
    (hQ : ∀ x ∈ l, Q x = true → P x = true) : (l.takeWhile P).filter Q = l.filter Q := by
  induction l with
  | nil => rfl
  | cons a l ih =>
    obtain ⟨ha, hl⟩ := List.pairwise_cons.1 hblock
    have hQl : ∀ x ∈ l, Q x = true → P x = true := fun x hx => hQ x (List.mem_cons_of_mem _ hx)
    by_cases hPa : P a = true
    · rw [List.takeWhile_cons_of_pos hPa, List.filter_cons, List.filter_cons, ih hl hQl]
    · have hnone : ∀ x ∈ a :: l, ¬Q x = true := fun x hx hq => by
        have hPx := hQ x hx hq
        rcases List.mem_cons.1 hx with rfl | hx
        · exact hPa hPx
        · exact hPa (ha x hx hPx)
      rw [List.takeWhile_cons_of_neg hPa, List.filter_nil, eq_comm, List.filter_eq_nil_iff]
      exact hnone

namespace Tree

/-! ## Entries and places -/

/-- A tree has at most one entry at a place. -/
theorem eq_of_equiv {t : Tree} {d e : Entry} (hd : d ∈ t.entries) (he : e ∈ t.entries)
    (h : d.path ≈ e.path) : d = e := by
  have hapart : t.entries.Pairwise fun a b => ¬a.path ≈ b.path :=
    t.inOrder.imp fun hab => hab.not_equiv
  have hsymm : Symm fun a b : Entry => ¬a.path ≈ b.path :=
    ⟨fun _ _ hab hba => hab (Path.equiv_symm hba)⟩
  by_contra hne
  exact hapart.forall hd he hne h

theorem find?_eq_some_iff {t : Tree} {p : Path} {e : Entry} :
    t.find? p = some e ↔ e ∈ t.entries ∧ e.path ≈ p := by
  constructor
  · intro h
    have hpath := List.find?_some (p := fun e : Entry => decide (e.path ≈ p)) h
    exact ⟨List.mem_of_find?_eq_some h, of_decide_eq_true hpath⟩
  · rintro ⟨he, hep⟩
    cases hf : t.find? p with
    | none =>
      rw [find?, entryAt?, List.find?_eq_none] at hf
      exact absurd (decide_eq_true hep) (hf e he)
    | some d =>
      have hd : d ∈ t.entries := List.mem_of_find?_eq_some hf
      have hdp : d.path ≈ p :=
        of_decide_eq_true (List.find?_some (p := fun e : Entry => decide (e.path ≈ p)) hf)
      rw [eq_of_equiv hd he (Path.equiv_trans hdp (Path.equiv_symm hep))]

theorem kind?_eq_some_iff {t : Tree} {p : Path} {b : Bool} :
    t.kind? p = some b ↔ ∃ e ∈ t.entries, e.path ≈ p ∧ e.isDir = b := by
  rw [kind?, Option.map_eq_some_iff]
  simp only [find?_eq_some_iff, and_assoc]

theorem contains_iff {t : Tree} {p : Path} :
    t.contains p = true ↔ ∃ e ∈ t.entries, e.path ≈ p := by
  rw [contains, Option.isSome_iff_exists]
  simp only [find?_eq_some_iff]

theorem contains_eq_isSome_kind? (t : Tree) (p : Path) : t.contains p = (t.kind? p).isSome := by
  rw [contains, kind?, Option.isSome_map]

theorem contains_of_kind? {t : Tree} {p : Path} {isDir : Bool} (h : t.kind? p = some isDir) :
    t.contains p = true := by
  rw [contains_eq_isSome_kind?, h, Option.isSome_some]

theorem contains_of_mem {t : Tree} {e : Entry} (h : e ∈ t.entries) : t.contains e.path = true :=
  contains_iff.2 ⟨e, h, Path.equiv_refl _⟩

theorem kind?_congr (t : Tree) {p q : Path} (h : p ≈ q) : t.kind? p = t.kind? q := by
  have hpq : (fun e : Entry => decide (e.path ≈ p)) = fun e => decide (e.path ≈ q) := by
    funext e
    exact decide_eq_decide.2
      ⟨fun he => Path.equiv_trans he h, fun he => Path.equiv_trans he (Path.equiv_symm h)⟩
  rw [kind?, kind?, find?, find?, entryAt?, entryAt?, hpq]

theorem contains_congr (t : Tree) {p q : Path} (h : p ≈ q) : t.contains p = t.contains q := by
  rw [contains_eq_isSome_kind?, contains_eq_isSome_kind?, t.kind?_congr h]

/-- Of the entries that satisfy `P`, one is at the place `p` if the entry there satisfies `P`, and
none if it does not. -/
theorem countP_equiv (t : Tree) (p : Path) (P : Entry → Bool) :
    t.entries.countP (fun e => decide (e.path ≈ p) && P e) =
      if (t.find? p).any P = true then 1 else 0 := by
  cases hf : t.find? p with
  | none =>
    rw [find?, entryAt?, List.find?_eq_none] at hf
    rw [if_neg (by simp), List.countP_eq_zero]
    intro e he h
    rw [Bool.and_eq_true] at h
    exact hf e he h.1
  | some d =>
    obtain ⟨hd, hdp⟩ := find?_eq_some_iff.1 hf
    have hnodup : t.entries.Nodup := t.inOrder.nodup
    have honly : ∀ e ∈ t.entries, (decide (e.path ≈ p) && P e) = (e == d && P d) := fun e he => by
      by_cases hep : e.path ≈ p
      · rw [eq_of_equiv he hd (Path.equiv_trans hep (Path.equiv_symm hdp))]
        simp [hdp]
      · have hne : e ≠ d := fun h => hep (h ▸ hdp)
        simp [hep, hne]
    rw [List.countP_congr fun e he => by rw [honly e he], Option.any_some]
    by_cases hP : P d = true
    · simp only [hP, Bool.and_true, if_true]
      exact hnodup.count.trans (if_pos hd)
    · simp [hP]

/-! ## Listings -/

/-- Before the entry at a path nothing is below the path, and behind it the stretch goes on. -/
theorem exists_split_at {t : Tree} {p : Path} (h : t.contains p = true) :
    ∃ before d after, t.entries = before ++ d :: after ∧ d.path ≈ p ∧
      (∀ e ∈ before, e.path.Before p) ∧ t.stretch p = d :: after.takeWhile fun e =>
        p.isAtOrAbove e.path := by
  obtain ⟨d, hd, hdp⟩ := contains_iff.1 h
  obtain ⟨before, after, hsplit⟩ := List.append_of_mem hd
  have horder := t.inOrder
  rw [hsplit, InOrder, List.pairwise_append] at horder
  obtain ⟨-, -, hbd⟩ := horder
  have hbefore : ∀ e ∈ before, e.path.Before p := fun e he =>
    (Path.before_congr (Path.equiv_refl _) hdp).1 (hbd e he d (by simp))
  have hself : ¬d.path.Before p := fun hb => hb.not_equiv hdp
  refine ⟨before, d, after, hsplit, hdp, hbefore, ?_⟩
  rw [stretch, hsplit, List.dropWhile_append_of_pos (by simpa using hbefore),
    List.dropWhile_cons_of_neg (by simpa using hself), List.takeWhile_cons_of_pos]
  exact Path.isAtOrAbove_of_equiv (Path.equiv_symm hdp)

/-- Behind its first entry, the stretch at a path has all entries strictly below the path. -/
theorem filter_drop_stretch {t : Tree} {p : Path} (h : t.contains p = true) {Q : Entry → Bool}
    (hQ : ∀ e, Q e = true → p.isAtOrAbove e.path = true ∧ ¬e.path ≈ p) :
    ((t.stretch p).drop 1).filter Q = t.entries.filter Q := by
  obtain ⟨before, d, after, hsplit, hdp, hbefore, hstretch⟩ := exists_split_at h
  have horder := t.inOrder
  rw [hsplit, InOrder, List.pairwise_append, List.pairwise_cons] at horder
  obtain ⟨-, ⟨hda, hafter⟩, -⟩ := horder
  have hnone : before.filter Q = [] := by
    rw [List.filter_eq_nil_iff]
    exact fun e he hq => Path.not_before_of_isAtOrAbove (hQ e hq).1 (hbefore e he)
  have hself : ¬Q d = true := fun hq => (hQ d hq).2 hdp
  have hblock : after.Pairwise fun x y => p.isAtOrAbove y.path = true →
      p.isAtOrAbove x.path = true := by
    refine hafter.imp_of_mem fun {x y} hx _ hxy hy => Path.isAtOrAbove_of_before ?_ hxy hy
    have hpx : p.Before x.path := (Path.before_congr hdp (Path.equiv_refl _)).1 (hda x hx)
    exact hpx.asymm
  rw [hstretch, List.drop_one, List.tail_cons,
    filter_takeWhile_of_block hblock fun e _ he => (hQ e he).1, hsplit, List.filter_append, hnone,
    List.nil_append, List.filter_cons, if_neg hself]

/-- **A listing shows exactly the accepted entries of the whole tree whose parent is the
directory.** -/
theorem list_eq (t : Tree) (p : Path) (accept : Entry → Bool) :
    t.list p accept = match t.kind? p with
      | none => .ok []
      | some false => .error (.storage (.notDirectory p))
      | some true => .ok (t.entries.filter fun e => decide (e.path.IsChildOf p) && accept e) := by
  have htest : (fun e : Entry => e.path.parent?.any (fun q => decide (q ≈ p)) && accept e) =
      fun e => decide (e.path.IsChildOf p) && accept e := by
    funext e
    rw [← Bool.decide_coe (e.path.parent?.any _), decide_eq_decide.2 Path.any_parent?_iff]
  rw [list, htest]
  cases hk : t.kind? p with
  | none => rfl
  | some isDir =>
    cases isDir with
    | false => rfl
    | true =>
      refine congrArg Except.ok (filter_drop_stretch (contains_of_kind? hk) fun e he => ?_)
      rw [Bool.and_eq_true, decide_eq_true_eq] at he
      exact ⟨he.1.isAtOrAbove, he.1.not_equiv⟩

/-- **What a listing shows.**  Of a missing path it is empty and of a file it is an error.  Of a
directory it is what a filter of the whole tree leaves, though only a stretch of the tree is read:
in path order, each once and with its kind, the accepted entries whose parent is the directory. -/
theorem list_exact (t : Tree) (p : Path) (accept : Entry → Bool) :
    (t.kind? p = none → t.list p accept = .ok []) ∧
    (t.kind? p = some false → t.list p accept = .error (.storage (.notDirectory p))) ∧
    (t.kind? p = some true →
      t.list p accept = .ok (t.entries.filter fun e => decide (e.path.IsChildOf p) && accept e) ∧
      ∀ es, t.list p accept = .ok es ↔ InOrder es ∧ ∀ e, e ∈ es ↔
        e ∈ t.entries ∧ (∃ d, e.path.parent? = some d ∧ d ≈ p) ∧ accept e = true) := by
  rw [list_eq]
  refine ⟨?_, ?_, ?_⟩
  · intro hk
    rw [hk]
  · intro hk
    rw [hk]
  · intro hk
    rw [hk]
    refine ⟨rfl, fun es => ?_⟩
    have horder : InOrder (t.entries.filter fun e => decide (e.path.IsChildOf p) && accept e) :=
      t.inOrder.filter _
    have hmem : ∀ e, e ∈ t.entries.filter (fun e => decide (e.path.IsChildOf p) && accept e) ↔
        e ∈ t.entries ∧ (∃ d, e.path.parent? = some d ∧ d ≈ p) ∧ accept e = true := by
      intro e
      rw [List.mem_filter, Bool.and_eq_true, decide_eq_true_eq, Path.IsChildOf]
    constructor
    · intro h
      cases h
      exact ⟨horder, hmem⟩
    · rintro ⟨hes, hshown⟩
      refine congrArg Except.ok (horder.eq_of_mem_iff hes fun e => ?_)
      rw [hmem, hshown]

/-- Neither what only starts like the name of the directory is shown, nor what is further down, and
the directory may be spelled in another way. -/
theorem list_exact_of_common_starts :
    let t := (((empty.createFile ⟨"/t/idx1/s2/f"⟩).2.createDir ⟨"/t/idx1/s1"⟩).2.createDir
      ⟨"/t/idx10/s3"⟩).2.createFile ⟨"/t/idx1-x"⟩ |>.2
    t.kind? ⟨"/t//idx1/."⟩ = some true ∧
      t.list ⟨"/t//idx1/."⟩ (fun _ => true) =
        .ok [⟨⟨"/t/idx1/s1"⟩, true⟩, ⟨⟨"/t/idx1/s2"⟩, true⟩] ∧
      t.kind? ⟨"/t/idx1-x"⟩ = some false ∧
      t.list ⟨"/t/idx1-x"⟩ (fun _ => true) = .error (.storage (.notDirectory ⟨"/t/idx1-x"⟩)) ∧
      t.kind? ⟨"/t/idx"⟩ = none ∧ t.list ⟨"/t/idx"⟩ (fun _ => true) = .ok [] := by
  intro t
  have hdir : t.kind? ⟨"/t//idx1/."⟩ = some true := by decide +kernel
  have hfile : t.kind? ⟨"/t/idx1-x"⟩ = some false := by decide +kernel
  have hnone : t.kind? ⟨"/t/idx"⟩ = none := by decide +kernel
  refine ⟨hdir, ?_, hfile, (list_exact t _ _).2.1 hfile, hnone, (list_exact t _ _).1 hnone⟩
  rw [((list_exact t _ _).2.2 hdir).1]
  refine congrArg Except.ok ?_
  decide +kernel

end Tree
end IndexShards
