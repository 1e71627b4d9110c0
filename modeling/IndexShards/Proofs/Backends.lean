import IndexShards.Proofs.Disk.Changes
import IndexShards.Proofs.Tree.Runs

/-!
# The tree and the disk give the same answers

Index directories can be kept in memory or on a disk.  The two have little in common: in memory
there is a list of entries that are told apart by their parts, of which a deletion keeps those that
are not below a path; a disk is walked name by name, and each of its steps can fail.  What a
library does on top of them should not depend on which of the two it is.

It does not, as long as the paths are plain and lead through directories, with one exception.  A
path says no more to the tree than its names.  To a system a slash or a dot behind the last name
says that a directory is meant, so it refuses such a path where a file is, and does not remove a
directory whose path ends in a dot.  These paths are left out, and only for the operations that they
make a difference to.

## What is here

* `Mirrors t d` — below its working directory the disk has what the tree has.
* `Suits t c` — the call succeeds on the tree, and its path is one that both understand.
* `Mirrors.perform` — **a call that suits the tree succeeds on the disk, and the disk mirrors the
  tree again**.
* `SameAnswers t d p` — what is seen at a path is the same.
* `same_answers_of_run` — **after calls that suit, all answers are the same**, and a deletion
  leaves it so.
* `differs_behind_name` — the exception.
-/

set_option autoImplicit false

namespace IndexShards

open IndexShards.Path Disk

/-! ## Calls on a disk -/

/-- Makes a call on a disk. -/
def Disk.perform (d : Disk) : Tree.Call → Except Error Unit × Disk
  | .createDir path => (d.createDir path).map (·.mapError .io) id
  | .createFile path => (d.createFile path).map (·.mapError .io) id
  | .delete path => Disk.fileSystem.delete d path

theorem Disk.perform_delete (d : Disk) (p : Path) :
    d.perform (.delete p) = Disk.fileSystem.delete d p := rfl

theorem Tree.perform_delete (t : Tree) (p : Path) :
    t.perform (.delete p) = Tree.fileSystem.delete t p := rfl

/-- The disk after calls. -/
def Disk.reached (d : Disk) (calls : List Tree.Call) : Disk := (runCalls Disk.perform d calls).2

namespace Backends

variable {t : Tree} {d d' : Disk} {p q : Path} {isDir : Bool}

/-! ## A disk that mirrors a tree -/

/-- The node that an entry of this kind is on a disk. -/
def nodeOf (isDir : Bool) : Node := if isDir then .dir else .file

/-- Below its working directory the disk has what the tree has, and it has nothing else there.  The
tree has paths of names only, and directories above them. -/
structure Mirrors (t : Tree) (d : Disk) : Prop where
  start : d.node? d.workDir = some .dir
  node?_eq : ∀ {p : Path}, p.HasNames → d.node? (d.workDir ++ p.names) = (t.kind? p).map nodeOf
  exists_path : ∀ {ns : List String} {n : Node}, ns ≠ [] → d.node? (d.workDir ++ ns) = some n →
    ∃ p : Path, p.HasNames ∧ p.names = ns
  hasNames : ∀ {p : Path}, t.contains p = true → p.HasNames
  layered : t.Layered

/-- No file is above the path. -/
def Clear (t : Tree) (p : Path) : Prop := ∀ e ∈ t.entries, e.path.IsAbove p → e.isDir = true

instance (t : Tree) (p : Path) : Decidable (Clear t p) :=
  inferInstanceAs (Decidable (∀ e ∈ t.entries, _))

theorem clear_iff : Clear t p ↔ ∀ a : Path, a.IsAbove p → t.kind? a ≠ some false := by
  have hcongr : ∀ {a b : Path}, a ≈ b → (a.IsAbove p ↔ b.IsAbove p) := fun hab => by
    rw [isAbove_iff, isAbove_iff, isAtOrAbove_congr hab (equiv_refl p), equiv_iff.1 hab]
  constructor
  · intro h a ha hk
    obtain ⟨e, he, hea, hfile⟩ := Tree.kind?_eq_some_iff.1 hk
    rw [h e he ((hcongr hea).2 ha)] at hfile
    cases hfile
  · intro h e he habove
    rw [← Bool.not_eq_false]
    exact fun hfile => h e.path habove (Tree.kind?_eq_some_iff.2 ⟨e, he, equiv_refl _, hfile⟩)

theorem nodeOf_inj {a b : Bool} (h : nodeOf a = nodeOf b) : a = b := by
  cases a <;> cases b <;> first | rfl | cases h

/-- What is at names on the disk is in the tree. -/
theorem Mirrors.exists_of_node (h : Mirrors t d) {ns : List String} {n : Node} (hne : ns ≠ [])
    (hn : d.node? (d.workDir ++ ns) = some n) :
    ∃ p : Path, p.HasNames ∧ p.names = ns ∧ ∃ isDir, t.kind? p = some isDir ∧ n = nodeOf isDir := by
  obtain ⟨p, hp, rfl⟩ := h.exists_path hne hn
  rw [h.node?_eq hp, Option.map_eq_some_iff] at hn
  obtain ⟨isDir, hk, rfl⟩ := hn
  exact ⟨p, hp, rfl, isDir, hk, rfl⟩

/-- Unless the tree has an entry of the other kind at the path, the disk has no other node there. -/
theorem Mirrors.eq_nodeOf (h : Mirrors t d) (isDir : Bool) (hp : p.HasNames)
    (hk : t.kind? p ≠ some !isDir) {n : Node} (hn : d.node? (d.workDir ++ p.names) = some n) :
    n = nodeOf isDir := by
  rw [h.node?_eq hp, Option.map_eq_some_iff] at hn
  obtain ⟨b, hb, rfl⟩ := hn
  by_cases heq : b = isDir
  · rw [heq]
  · rw [Bool.eq_not_of_ne heq] at hb
    exact absurd hb hk

/-- Nothing is below names at which no directory is. -/
theorem Mirrors.node?_eq_none_of_below (h : Mirrors t d) {m m' : List String} (hne : m ≠ [])
    (hdir : d.node? (d.workDir ++ m) ≠ some .dir) (hm : m <+: m') (hmm : m ≠ m') :
    d.node? (d.workDir ++ m') = none := by
  rw [Option.eq_none_iff_forall_ne_some]
  intro n hn
  have hne' : m' ≠ [] := fun hnil => hne (List.prefix_nil.1 (hnil ▸ hm))
  obtain ⟨q, hq, rfl, isDir, hk, -⟩ := h.exists_of_node hne' hn
  obtain ⟨p, hp, rfl⟩ := exists_hasNames_of_prefix hne hq hm
  have habove : p.IsAbove q := (isAbove_iff_names hp hq).2 ⟨hm, hmm⟩
  refine hdir ?_
  rw [h.node?_eq hp, h.layered p q (Tree.contains_of_kind? hk) habove hp.parts_ne_nil]
  rfl

/-- The way to a path without a file above it. -/
theorem Mirrors.way (h : Mirrors t d) (hp : p.HasNames) (hclear : Clear t p) : d.Way p.names := by
  refine ⟨h.start, fun {m n} hm hne hn => ?_, fun {m m'} hm _ hnone => ?_, fun target hlink => ?_⟩
  · rcases eq_or_ne m [] with rfl | hnil
    · rw [List.append_nil, h.start] at hn
      exact (Option.some.inj hn).symm
    · obtain ⟨a, ha, rfl, isDir, hk, rfl⟩ := h.exists_of_node hnil hn
      cases isDir with
      | true => rfl
      | false => exact absurd hk (clear_iff.1 hclear a ((isAbove_iff_names ha hp).2 ⟨hm, hne⟩))
  · -- the working directory is there, so the gap is below it, at names that a path has
    have hnil : m ≠ [] := fun hnil => by
      rw [hnil, List.append_nil, h.start] at hnone
      cases hnone
    rcases eq_or_ne m m' with rfl | hmm
    · exact hnone
    · exact h.node?_eq_none_of_below hnil (hnone ▸ nofun) hm hmm
  · rw [h.node?_eq hp, Option.map_eq_some_iff] at hlink
    obtain ⟨isDir, -, hlink⟩ := hlink
    cases isDir <;> cases hlink

/-- A creation that succeeds has met no file above its path. -/
theorem Mirrors.clear_of_create (h : Mirrors t d) (hok : (t.create p isDir).1 = .ok ()) :
    Clear t p := by
  refine clear_iff.2 fun a ha hk => ?_
  have hnames := h.hasNames (Tree.contains_of_kind? hk)
  exact (Tree.create_ok hok).1 a ha hnames.parts_ne_nil hk

/-! ## Calls that suit -/

/-- The text names what is there as a system wants it to be named for a deletion: a file without
anything behind its name, and a directory with nothing but slashes. -/
def Named (t : Tree) (p : Path) : Prop :=
  (t.kind? p = some false → endsInName p.text = true) ∧
    (t.kind? p = some true → endsInName (withoutSlashes p.text) = true)

instance (t : Tree) (p : Path) : Decidable (Named t p) := inferInstanceAs (Decidable (_ ∧ _))

/-- The path of the call is plain, and the call can be made on the tree: a creation succeeds, and a
deletion meets no file above its path.  The text of the path ends as a system wants it to. -/
def Suits (t : Tree) : Tree.Call → Prop
  | .createDir p => p.IsPlain ∧ (t.createDir p).1 = .ok () ∧
      (t.kind? p = none → endsInName (withoutSlashes p.text) = true)
  | .createFile p => p.IsPlain ∧ (t.createFile p).1 = .ok () ∧ endsInName p.text = true
  | .delete p => p.IsPlain ∧ Clear t p ∧ Named t p

instance (t : Tree) : (c : Tree.Call) → Decidable (Suits t c)
  | .createDir _ => inferInstanceAs (Decidable (_ ∧ _))
  | .createFile _ => inferInstanceAs (Decidable (_ ∧ _))
  | .delete _ => inferInstanceAs (Decidable (_ ∧ _))

/-- Each of the calls suits the tree at its turn. -/
def Suited : Tree → List Tree.Call → Prop
  | _, [] => True
  | t, c :: calls => Suits t c ∧ Suited (t.perform c).2 calls

instance decidableSuited : (t : Tree) → (calls : List Tree.Call) → Decidable (Suited t calls)
  | _, [] => inferInstanceAs (Decidable True)
  | t, c :: calls =>
    have := decidableSuited (t.perform c).2 calls
    inferInstanceAs (Decidable (_ ∧ _))

/-- A creation that succeeds on both keeps the disk a mirror of the tree. -/
theorem Mirrors.create (h : Mirrors t d) (hp : p.HasNames) (hok : (t.create p isDir).1 = .ok ())
    (hkind : isDir = false → t.kind? p ≠ some true) (hd : Created d d' p.names (nodeOf isDir)) :
    Mirrors (t.create p isDir).2 d' := by
  have hlayered := h.layered.create hok hkind
  obtain ⟨-, filled, hfill, hcreate⟩ := Tree.create_ok hok
  rw [hcreate] at hlayered ⊢
  refine ⟨?_, fun {q} hq => ?_, fun {ns n} hne hn => ?_, fun {q} hq => ?_, hlayered⟩
  · have hstart := hd.node?_eq []
    rw [if_neg hp.names_ne_nil, List.append_nil, h.start, Option.some_or] at hstart
    rw [hd.workDir_eq, hstart]
  · rw [hd.workDir_eq, hd.node?_eq, Tree.kind?_put]
    simp only [equiv_iff_names hp hq]
    split
    · rfl
    · -- elsewhere both have what they had, and directories above `p` where nothing was
      next hne =>
      have habove : q.IsAbove p ∧ 0 < q.parts.length ↔ q.names <+: p.names := by
        rw [and_iff_left (List.length_pos_iff.2 hq.parts_ne_nil), isAbove_iff_names hq hp]
        exact and_iff_left fun heq => hne heq.symm
      rw [hfill q, h.node?_eq hq]
      simp only [habove]
      cases t.kind? q with
      | some b => rfl
      | none => split <;> rfl
  · rw [hd.workDir_eq, hd.node?_eq] at hn
    split at hn
    · next heq => exact ⟨p, hp, heq⟩
    · cases hold : d.node? (d.workDir ++ ns) with
      | some old => exact h.exists_path hne hold
      | none =>
        rw [hold, Option.none_or] at hn
        split at hn
        · next hpre => exact exists_hasNames_of_prefix hne hp hpre
        · cases hn
  · rcases (Tree.contains_put_iff _ _ _ _).1 hq with hpq | hq
    · exact hp.congr hpq
    · rcases (hfill.contains_iff q).1 hq with hq | ⟨habove, hlong⟩
      · exact h.hasNames hq
      · exact hp.of_isAtOrAbove habove.1 (List.length_pos_iff.1 hlong)

/-- A deletion keeps the disk a mirror of the tree. -/
theorem Mirrors.delete (h : Mirrors t d) (hp : p.IsPlain) (hclear : Clear t p)
    (hnamed : Named t p) : ∃ d', d.delete p = (.ok (), d') ∧ Mirrors (t.delete p) d' := by
  have hnode := h.node?_eq hp.hasNames
  have hkind : ∀ {b}, d.node? (d.workDir ++ p.names) = some (nodeOf b) → t.kind? p = some b :=
    fun {b} hb => by
      rw [hnode, Option.map_eq_some_iff] at hb
      obtain ⟨b', hk, hb⟩ := hb
      rw [hk, nodeOf_inj hb]
  obtain ⟨d', hd', hcleared⟩ := delete_eq hp (h.way hp.hasNames hclear)
    (fun hdir => hnamed.2 (hkind (b := true) hdir))
    (fun hfile => hnamed.1 (hkind (b := false) hfile))
    fun hdir m => h.node?_eq_none_of_below hp.hasNames.names_ne_nil hdir
  refine ⟨d', hd', ?_, fun {q} hq => ?_, fun {ns n} hne hn => ?_, fun {q} hq => ?_,
    h.layered.delete p⟩
  · have hstart := hcleared.node?_eq []
    rw [if_neg fun hnil => hp.hasNames.names_ne_nil (List.prefix_nil.1 hnil), List.append_nil,
      h.start] at hstart
    rw [hcleared.workDir_eq, hstart]
  · rw [hcleared.workDir_eq, hcleared.node?_eq, Tree.kind?_delete, h.node?_eq hq]
    simp only [isAtOrAbove_iff_names hp.hasNames hq]
    split <;> rfl
  · rw [hcleared.workDir_eq, hcleared.node?_eq] at hn
    split at hn
    · cases hn
    · exact h.exists_path hne hn
  · exact h.hasNames ((Tree.contains_delete_iff t p q).1 hq).1

/-- **A call that suits the tree succeeds on the disk as well, and the disk mirrors the tree
again.** -/
theorem Mirrors.perform (h : Mirrors t d) {c : Tree.Call} (hc : Suits t c) :
    (t.perform c).1 = .ok () ∧ (d.perform c).1 = .ok () ∧
      Mirrors (t.perform c).2 (d.perform c).2 := by
  cases c with
  | createDir p =>
    obtain ⟨hp, hok, hends⟩ := hc
    obtain ⟨hk, hcreate⟩ := Tree.createDir_ok hok
    rw [hcreate] at hok
    have hway := h.way hp.hasNames (h.clear_of_create hok)
    have hends' : d.node? (d.workDir ++ p.names) = none →
        endsInName (withoutSlashes p.text) = true := fun hnone =>
      hends (Option.map_eq_none_iff.1 ((h.node?_eq hp.hasNames).symm.trans hnone))
    obtain ⟨d', hd', hcreated⟩ :=
      createDir_eq hp hway (fun _ => h.eq_nodeOf true hp.hasNames hk) hends'
    have hperform : d.perform (.createDir p) = (.ok (), d') := by
      rw [Disk.perform, hd']
      rfl
    rw [hperform, Tree.perform, hcreate]
    exact ⟨hok, rfl, h.create hp.hasNames hok (fun hfile => by cases hfile) hcreated⟩
  | createFile p =>
    obtain ⟨hp, hok, hends⟩ := hc
    obtain ⟨hk, hcreate⟩ := Tree.createFile_ok hok
    rw [hcreate] at hok
    have hway := h.way hp.hasNames (h.clear_of_create hok)
    obtain ⟨d', hd', hcreated⟩ :=
      createFile_eq hp hway (fun _ => h.eq_nodeOf false hp.hasNames hk) hends
    have hperform : d.perform (.createFile p) = (.ok (), d') := by
      rw [Disk.perform, hd']
      rfl
    rw [hperform, Tree.perform, hcreate]
    exact ⟨hok, rfl, h.create hp.hasNames hok (fun _ => hk) hcreated⟩
  | delete p =>
    obtain ⟨hp, hclear, hnamed⟩ := hc
    obtain ⟨d', hd', hmirrors⟩ := h.delete hp hclear hnamed
    have hperform : d.perform (.delete p) = (.ok (), d') := by
      show ((d.delete p).1.mapError Error.io, (d.delete p).2) = _
      rw [hd']
      rfl
    rw [hperform]
    exact ⟨rfl, rfl, hmirrors⟩

/-! ## The same answers -/

/-- Both listings fail, or both show the same paths, up to their spelling, as directories and as
files. -/
def SameListing : Except Error (List Entry) → Except Error (List Entry) → Prop
  | .ok es, .ok es' => ∀ (q : Path) (isDir : Bool),
      (∃ e ∈ es, e.path ≈ q ∧ e.isDir = isDir) ↔ ∃ e ∈ es', e.path ≈ q ∧ e.isDir = isDir
  | .error _, .error _ => True
  | _, _ => False

/-- What is seen at the path is the same in the tree and on the disk, be it asked whether something
is there or what is below it, by a test that looks at the parts of a path and at the kind. -/
structure SameAnswers (t : Tree) (d : Disk) (p : Path) : Prop where
  contains : (t.kind? p = some false → endsInName p.text = true) →
    Tree.fileSystem.contains t p = Disk.fileSystem.contains d p
  list : ∀ accept : Entry → Bool,
    (∀ e e' : Entry, e.path ≈ e'.path → e.isDir = e'.isDir → accept e = accept e') →
    SameListing (Tree.fileSystem.list t p accept) (Disk.fileSystem.list d p accept)

/-- The entries of a directory are in the tree, and those directly below it in the tree are entries
of the directory. -/
theorem Mirrors.sameListing_children (h : Mirrors t d) (hp : p.HasNames) {accept : Entry → Bool}
    (haccept : ∀ e e' : Entry, e.path ≈ e'.path → e.isDir = e'.isDir → accept e = accept e') :
    SameListing (.ok (t.entries.filter fun e => decide (e.path.IsChildOf p) && accept e))
      (.ok ((d.children (d.workDir ++ p.names) p).filter accept)) := by
  have hnodeOf : ∀ b, (nodeOf b == .dir) = b := fun b => by cases b <;> rfl
  intro q isDir
  simp only [List.mem_filter, Bool.and_eq_true, decide_eq_true_eq, mem_children]
  constructor
  · rintro ⟨e, ⟨he, hchild, hacc⟩, heq, hkind⟩
    have hnames := h.hasNames (Tree.contains_of_mem he)
    obtain ⟨n, hn⟩ := (isChildOf_iff_names hnames hp).1 hchild
    obtain ⟨hjoin, hjoined⟩ := hp.join hnames (n := n) (hn ▸ by simp)
    have hsame : p.join n ≈ e.path := (equiv_iff_names hjoin hnames).2 (hjoined.trans hn.symm)
    have hnode : d.node? (d.workDir ++ p.names ++ [n]) = some (nodeOf e.isDir) := by
      rw [List.append_assoc, ← hn, h.node?_eq hnames,
        Tree.kind?_eq_some_iff.2 ⟨e, he, equiv_refl _, rfl⟩]
      rfl
    refine ⟨⟨p.join n, e.isDir⟩, ⟨⟨n, _, hnode, ?_⟩, ?_⟩, equiv_trans hsame heq, hkind⟩
    · rw [hnodeOf]
    · rw [haccept ⟨p.join n, e.isDir⟩ e hsame rfl]
      exact hacc
  · rintro ⟨e, ⟨⟨n, node, hnode, rfl⟩, hacc⟩, heq, hkind⟩
    rw [List.append_assoc] at hnode
    have hne : p.names ++ [n] ≠ [] := List.append_ne_nil_of_right_ne_nil _ (List.cons_ne_nil _ _)
    obtain ⟨r, hr, hrnames, b, hb, rfl⟩ := h.exists_of_node hne hnode
    obtain ⟨hjoin, hjoined⟩ := hp.join hr (n := n) (hrnames ▸ by simp)
    obtain ⟨e, he, her, rfl⟩ := Tree.kind?_eq_some_iff.1 hb
    have hsame : e.path ≈ p.join n :=
      equiv_trans her ((equiv_iff_names hr hjoin).2 (hrnames.trans hjoined.symm))
    have hnames := h.hasNames (Tree.contains_of_mem he)
    rw [hnodeOf] at hacc hkind
    refine ⟨e, ⟨he, ?_, ?_⟩, equiv_trans hsame heq, hkind⟩
    · exact (isChildOf_iff_names hnames hp).2 ⟨n, (names_congr hsame).trans hjoined⟩
    · rw [haccept e ⟨p.join n, e.isDir⟩ hsame rfl]
      exact hacc

/-- **A disk that mirrors a tree gives the same answers.** -/
theorem Mirrors.sameAnswers (h : Mirrors t d) (hp : p.IsPlain) (hclear : Clear t p) :
    SameAnswers t d p := by
  have hnode : d.nodeAt .target p.text = _ := nodeAt_eq hp (h.way hp.hasNames hclear) nofun
  rw [h.node?_eq hp.hasNames] at hnode
  have hfile : t.kind? p = some false → d.nodeAt .target p.text =
      if endsInName p.text then .ok (d.workDir ++ p.names, .file) else .error .notDirectory :=
    fun hk => by
      rw [hnode, hk]
      rfl
  refine ⟨fun hends => ?_, fun accept haccept => ?_⟩
  · show Except.ok (t.contains p) = (d.contains p).mapError Error.io
    rw [Tree.contains_eq_isSome_kind?, Disk.contains]
    match hk : t.kind? p with
    | none | some true =>
      rw [hnode, hk]
      rfl
    | some false =>
      rw [hfile hk, if_pos (hends hk)]
      rfl
  · show SameListing (t.list p accept) ((d.list p accept).mapError Error.io)
    rw [Tree.list_eq, Disk.list]
    match hk : t.kind? p with
    | none =>
      rw [hnode, hk]
      exact fun _ _ => Iff.rfl
    | some true =>
      rw [hnode, hk]
      exact h.sameListing_children hp.hasNames haccept
    | some false =>
      rw [hfile hk]
      by_cases hends : endsInName p.text = true
      · rw [if_pos hends]
        exact trivial
      · rw [if_neg hends]
        exact trivial

/-! ## Runs -/

/-- The working directory is there, and nothing is below it. -/
structure Bare (d : Disk) : Prop where
  start : d.node? d.workDir = some .dir
  nothing : ∀ ns : List String, ns ≠ [] → d.node? (d.workDir ++ ns) = none

/-- A disk with nothing but a working directory has the directories down to it. -/
theorem getElem?_nodes_empty (w l : Location) : (Disk.empty w).nodes[l]? =
    if ∃ i, i < w.length ∧ w.take (i + 1) = l then some .dir else none := by
  rw [Disk.empty]
  dsimp only
  induction w.length with
  | zero => simp
  | succ n ih =>
    rw [List.range_succ, List.foldl_append, List.foldl_cons, List.foldl_nil,
      Std.ExtTreeMap.getElem?_insert, ih]
    simp only [Std.LawfulEqCmp.compare_eq_iff_eq, Nat.lt_succ_iff_lt_or_eq, or_and_right, exists_or,
      exists_eq_left]
    by_cases h : w.take (n + 1) = l <;> simp [h]

theorem bare_empty (w : Location) : Bare (Disk.empty w) := by
  constructor
  · show (if w = [] then some Node.dir else (Disk.empty w).nodes[w]?) = some .dir
    split
    · rfl
    · next hw =>
      have hpos := List.length_pos_iff.2 hw
      rw [getElem?_nodes_empty, if_pos ⟨w.length - 1, by omega, List.take_of_length_le (by omega)⟩]
  · intro ns hns
    show (if w ++ ns = [] then some Node.dir else (Disk.empty w).nodes[w ++ ns]?) = none
    rw [if_neg fun h => hns (List.append_eq_nil_iff.1 h).2, getElem?_nodes_empty, if_neg]
    rintro ⟨i, hi, htake⟩
    have hlength := congrArg List.length htake
    have hpos := List.length_pos_iff.2 hns
    rw [List.length_take, List.length_append] at hlength
    omega

theorem Bare.mirrors (h : Bare d) : Mirrors .empty d where
  start := h.start
  node?_eq hp := h.nothing _ hp.names_ne_nil
  exists_path hne hn := by
    rw [h.nothing _ hne] at hn
    cases hn
  hasNames hp := by cases hp
  layered := Tree.layered_empty

/-- After calls that suit, the disk mirrors the tree, and all of the calls have succeeded on
both. -/
theorem Mirrors.run (h : Mirrors t d) {calls : List Tree.Call} (hcalls : Suited t calls) :
    (∀ answer ∈ (runCalls Tree.perform t calls).1, answer = .ok ()) ∧
      (∀ answer ∈ (runCalls Disk.perform d calls).1, answer = .ok ()) ∧
      Mirrors (runCalls Tree.perform t calls).2 (runCalls Disk.perform d calls).2 := by
  induction calls generalizing t d with
  | nil => exact ⟨fun _ h => (List.not_mem_nil h).elim, fun _ h => (List.not_mem_nil h).elim, h⟩
  | cons c calls ih =>
    obtain ⟨htree, hdisk, hmirrors⟩ := h.perform hcalls.1
    obtain ⟨htrees, hdisks, hmirrors⟩ := ih hmirrors hcalls.2
    exact ⟨List.forall_mem_cons.2 ⟨htree, htrees⟩, List.forall_mem_cons.2 ⟨hdisk, hdisks⟩, hmirrors⟩

/-- **After calls that suit, the tree and the disk give the same answers.**  All of the calls have
succeeded on both.  At every plain path without a file above it the two answer the same, and
deleting that path, named as it has to be, succeeds on both and leaves them so. -/
theorem same_answers_of_run (hd : Bare d) {calls : List Tree.Call} (hcalls : Suited .empty calls) :
    (∀ answer ∈ (runCalls Tree.perform .empty calls).1, answer = .ok ()) ∧
    (∀ answer ∈ (runCalls Disk.perform d calls).1, answer = .ok ()) ∧
    ∀ p : Path, p.IsPlain → Clear (Tree.reached calls) p →
      SameAnswers (Tree.reached calls) (d.reached calls) p ∧
      (Named (Tree.reached calls) p →
        (Tree.fileSystem.delete (Tree.reached calls) p).1 = .ok () ∧
        (Disk.fileSystem.delete (d.reached calls) p).1 = .ok () ∧
        ∀ q : Path, q.IsPlain → Clear (Tree.fileSystem.delete (Tree.reached calls) p).2 q →
          SameAnswers (Tree.fileSystem.delete (Tree.reached calls) p).2
            (Disk.fileSystem.delete (d.reached calls) p).2 q) := by
  obtain ⟨htrees, hdisks, hrun⟩ := hd.mirrors.run hcalls
  have hmirrors : Mirrors (Tree.reached calls) (d.reached calls) := hrun
  refine ⟨htrees, hdisks, fun p hp hclear => ⟨hmirrors.sameAnswers hp hclear, fun hnamed => ?_⟩⟩
  obtain ⟨htree, hdisk, hdeleted⟩ := hmirrors.perform (c := .delete p) ⟨hp, hclear, hnamed⟩
  rw [Tree.perform_delete] at htree hdeleted
  rw [Disk.perform_delete] at hdisk hdeleted
  exact ⟨htree, hdisk, fun q hq hclear' => hdeleted.sameAnswers hq hclear'⟩

/-- Index directories that are made, thrown away and made again, and then all of them deleted. -/
theorem same_answers_of_index_dirs :
    let calls : List Tree.Call := [.createDir ⟨"idx/a//"⟩, .createFile ⟨"idx/a/seg"⟩,
      .delete ⟨"idx//a/"⟩, .createFile ⟨"idx/./a"⟩, .createDir ⟨"idx/."⟩]
    let d := Disk.empty ["srv"]
    let p : Path := ⟨"idx//"⟩
    Bare d ∧ Suited .empty calls ∧ p.IsPlain ∧ Clear (Tree.reached calls) p ∧
      Named (Tree.reached calls) p ∧ SameAnswers (Tree.reached calls) (d.reached calls) p ∧
      (Disk.fileSystem.delete (d.reached calls) p).1 = .ok () ∧
      Disk.fileSystem.contains (Disk.fileSystem.delete (d.reached calls) p).2 ⟨"idx/a"⟩ =
        .ok false := by
  intro calls d p
  have hbare : Bare d := bare_empty ["srv"]
  have hcalls : Suited .empty calls := by decide +kernel
  have hplain : p.IsPlain := by decide +kernel
  have hclear : Clear (Tree.reached calls) p := by decide +kernel
  have hnamed : Named (Tree.reached calls) p := by decide +kernel
  obtain ⟨-, -, hall⟩ := same_answers_of_run hbare hcalls
  obtain ⟨hsame, hdelete⟩ := hall p hplain hclear
  obtain ⟨-, hdeleted, hafter⟩ := hdelete hnamed
  refine ⟨hbare, hcalls, hplain, hclear, hnamed, hsame, hdeleted, ?_⟩
  have hgone := (hafter ⟨"idx/a"⟩ (by decide +kernel) (by decide +kernel)).contains
    (by decide +kernel)
  exact hgone.symm.trans (by decide +kernel)

/-- What is left out.  A file is there to the tree when a slash ends its path, and to the disk it is
not; and neither deletions nor creations are the same where the text goes on behind the name. -/
theorem differs_behind_name :
    let calls : List Tree.Call := [.createDir ⟨"a"⟩, .createFile ⟨"f"⟩]
    let d := Disk.empty ["srv"]
    (∀ answer ∈ (runCalls Tree.perform .empty calls).1, answer = .ok ()) ∧
      (∀ answer ∈ (runCalls Disk.perform d calls).1, answer = .ok ()) ∧
      (⟨"f/"⟩ : Path).IsPlain ∧ Clear (Tree.reached calls) ⟨"f/"⟩ ∧
      Tree.fileSystem.contains (Tree.reached calls) ⟨"f/"⟩ = .ok true ∧
      Disk.fileSystem.contains (d.reached calls) ⟨"f/"⟩ = .error (.io .notDirectory) ∧
      (Disk.fileSystem.delete (d.reached calls) ⟨"f/"⟩).1 = .error (.io .notDirectory) ∧
      (Disk.fileSystem.delete (d.reached calls) ⟨"a/."⟩).1 = .error (.io .invalid) ∧
      ((Tree.reached calls).perform (.createFile ⟨"g/"⟩)).1 = .ok () ∧
      ((d.reached calls).perform (.createFile ⟨"g/"⟩)).1 = .error (.io .isDirectory) ∧
      ((Tree.reached calls).perform (.createDir ⟨"g/."⟩)).1 = .ok () ∧
      ((d.reached calls).perform (.createDir ⟨"g/."⟩)).1 = .error (.io .notFound) := by
  decide +kernel

end Backends
end IndexShards
