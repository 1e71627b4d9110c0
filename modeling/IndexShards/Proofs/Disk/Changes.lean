import IndexShards.Proofs.Disk.Walk

/-!
# What creations and deletions leave on a disk

A creation tries the directory itself first, and only if its parent is missing the parent, and so
on up to one that is there; then it comes down again and makes one directory after the other.  What
it leaves is the disk that it found, with the missing directories on the way.

A deletion of a directory looks twice: it follows the path, empties the directory that it finds, and
follows the path again to remove it.  On the way of a plain path nothing has changed by then.

## What is here

* `node?_put`, `node?_without`, `node?_emptied` — what the single changes change.
* `Grown d d' ns` — `d'` is `d` with the directories down to the names.
* `ensureDir_of_dir`, `ensureDir_of_vacant`, `ensureDir_of_gap` — making one directory.
* `Created`, `Cleared` — what a creation and a deletion leave at every place.
* `ensureDirs_eq`, `createDir_eq`, `createFile_eq` — **creating a directory or a file**, with all
  that it needs.
* `delete_eq` — **deleting a plain path**.
-/

set_option autoImplicit false

namespace IndexShards
namespace Disk

open Std IndexShards.Path

variable {d d' : Disk} {p : Path} {ns : List String}

/-! ## Single changes -/

theorem node?_put (l : Location) (hne : ns ≠ []) (n : Node) (m : List String) :
    (d.put (l ++ ns) n).node? (l ++ m) = if ns = m then some n else d.node? (l ++ m) := by
  rw [node?, node?, put]
  by_cases hk : l ++ m = []
  · rw [if_pos hk, if_pos hk, if_neg]
    rintro rfl
    exact hne (List.append_eq_nil_iff.1 hk).2
  · simp only [if_neg hk, ExtTreeMap.getElem?_insert, LawfulEqCmp.compare_eq_iff_eq,
      List.append_cancel_left_eq]

theorem node?_without (l : Location) (hne : ns ≠ []) (m : List String) :
    (d.without (l ++ ns)).node? (l ++ m) = if ns = m then none else d.node? (l ++ m) := by
  rw [node?, node?, without]
  by_cases hk : l ++ m = []
  · rw [if_pos hk, if_pos hk, if_neg]
    rintro rfl
    exact hne (List.append_eq_nil_iff.1 hk).2
  · simp only [if_neg hk, ExtTreeMap.getElem?_erase, LawfulEqCmp.compare_eq_iff_eq,
      List.append_cancel_left_eq]

theorem node?_emptied (l : Location) (ns m : List String) :
    (d.emptied (l ++ ns)).node? (l ++ m) =
      if ns <+: m ∧ ns ≠ m then none else d.node? (l ++ m) := by
  have hpre : (l ++ ns).isPrefixOf (l ++ m) = true ↔ ns <+: m := by
    rw [List.isPrefixOf_iff_prefix, List.prefix_append_right_inj]
  rw [node?, node?, emptied]
  by_cases hk : l ++ m = []
  · obtain ⟨-, rfl⟩ := List.append_eq_nil_iff.1 hk
    rw [if_pos hk, if_pos hk, if_neg]
    exact fun h => h.2 (List.prefix_nil.1 h.1)
  · simp only [if_neg hk, ExtTreeMap.getElem?_filter']
    by_cases hbelow : ns <+: m ∧ ns ≠ m
    · have hgone : (decide (l ++ m = l ++ ns) || !(l ++ ns).isPrefixOf (l ++ m)) = false := by
        rw [hpre.2 hbelow.1, decide_eq_false fun h => hbelow.2 (List.append_cancel_left h).symm]
        rfl
      rw [if_pos hbelow]
      exact Option.filter_eq_none_iff.2 fun _ _ => by simpa using hgone
    · have hstays : (decide (l ++ m = l ++ ns) || !(l ++ ns).isPrefixOf (l ++ m)) = true := by
        rw [Bool.or_eq_true, decide_eq_true_eq, Bool.not_eq_true', ← Bool.not_eq_true, hpre,
          List.append_cancel_left_eq]
        by_cases heq : m = ns
        · exact Or.inl heq
        · exact Or.inr fun h => hbelow ⟨h, fun h => heq h.symm⟩
      rw [if_neg hbelow]
      cases d.nodes[l ++ m]? with
      | none => rfl
      | some n => exact Option.filter_some.trans (if_pos hstays)

/-- A way is the same on a disk with the same nodes on it. -/
theorem Way.congr (h : d.Way ns) (hdir : d'.workDir = d.workDir)
    (hsame : ∀ m, m <+: ns → d'.node? (d.workDir ++ m) = d.node? (d.workDir ++ m)) :
    d'.Way ns := by
  refine ⟨?_, fun hm hne hn => ?_, fun hm hm' hnone => ?_, ?_⟩
  · have hstart := hsame [] List.nil_prefix
    rw [List.append_nil] at hstart
    rw [hdir, hstart]
    exact h.start
  · rw [hdir, hsame _ hm] at hn
    exact h.dir_of_some hm hne hn
  · rw [hdir, hsame _ (hm.trans hm')] at hnone
    rw [hdir, hsame _ hm']
    exact h.none_of_none hm hm' hnone
  · rw [hdir, hsame ns (List.prefix_refl _)]
    exact h.noLink

/-! ## Growing -/

/-- The disk `d'` is `d` with the directories down to the names, as far as there was nothing. -/
structure Grown (d d' : Disk) (ns : List String) : Prop where
  workDir_eq : d'.workDir = d.workDir
  node?_eq : ∀ m, d'.node? (d.workDir ++ m) =
    (d.node? (d.workDir ++ m)).or (if m <+: ns then some .dir else none)

theorem grown_refl_of_open (h : d.Open d.workDir ns) : Grown d d ns := by
  refine ⟨rfl, fun m => ?_⟩
  by_cases hm : m <+: ns
  · rw [h m hm, Option.some_or]
  · rw [if_neg hm, Option.or_none]

section Above

variable (h : Grown d d' ns.dropLast) (hne : ns ≠ [])

include h hne

/-- Above the last name of a way all directories are there afterwards. -/
theorem Grown.open_dropLast (hway : d.Way ns) : d'.Open d'.workDir ns.dropLast := by
  intro m hm
  rw [h.workDir_eq, h.node?_eq, if_pos hm]
  cases hk : d.node? (d.workDir ++ m) with
  | none => rfl
  | some n => rw [hway.dir_of_dropLast hne hm hk, Option.some_or]

/-- At the names there is what was there. -/
theorem Grown.node?_eq_self : d'.node? (d'.workDir ++ ns) = d.node? (d.workDir ++ ns) := by
  rw [h.workDir_eq, h.node?_eq, if_neg fun hle => ((prefix_dropLast_iff hne).1 hle).2 rfl,
    Option.or_none]

/-- Elsewhere it makes no difference whether the directories are those down to the names or those
above. -/
theorem Grown.node?_eq_of_ne {m : List String} (hm : ns ≠ m) : d'.node? (d.workDir ++ m) =
    (d.node? (d.workDir ++ m)).or (if m <+: ns then some .dir else none) := by
  have hiff : m <+: ns.dropLast ↔ m <+: ns :=
    (prefix_dropLast_iff hne).trans (and_iff_left hm.symm)
  rw [h.node?_eq]
  simp only [hiff]

/-- One directory more is put below those that are there. -/
theorem Grown.put (hnone : d.node? (d.workDir ++ ns) = none) :
    Grown d (d'.put (d.workDir ++ ns) .dir) ns := by
  refine ⟨h.workDir_eq, fun m => ?_⟩
  rw [node?_put _ hne]
  by_cases hm : ns = m
  · rw [if_pos hm, ← hm, hnone, if_pos (List.prefix_refl _)]
    rfl
  · rw [if_neg hm, h.node?_eq_of_ne hne hm]

end Above

/-! ## Making one directory -/

/-- What making a directory at a plain path depends on: where its text leads without the slashes. -/
theorem putNew_eq (hp : p.IsPlain) : d.putNew p.text .dir =
    (d.spotOf .place (withoutSlashes p.text)).bind fun s =>
      if s.taken then .error .alreadyExists else .ok (d.put s.location .dir) := by
  rw [putNew, hp.checkText_eq]
  show (if withoutSlashes p.text = "" then _ else _) = _
  rw [if_neg (withoutSlashes_ne_empty hp.hasNames)]
  show (d.spotOf .place (withoutSlashes p.text)).bind _ = _
  refine congrArg _ (funext fun s => ?_)
  rw [if_pos (Or.inl rfl)]

/-- A directory that is there is left as it is. -/
theorem ensureDir_of_dir (hp : p.IsPlain) (h : d.Way p.names)
    (hdir : d.node? (d.workDir ++ p.names) = some .dir) : d.ensureDir p = (.ok (), d) := by
  have hisDir : d.isDir p.text = true := by
    have hnode : d.nodeAt .target p.text = _ := nodeAt_eq hp h nofun
    rw [isDir, hnode, hdir]
  obtain ⟨q, hq, hbare, hnames⟩ := exists_eq_withoutSlashes hp
  rw [← hnames] at h hdir
  have hspot : d.spotOf .place q.text = _ :=
    spotOf_of_open hbare (h.open_of_some hbare.hasNames.names_ne_nil hdir) h.noLink nofun
  rw [hdir] at hspot
  have hput : d.putNew p.text .dir = .error .alreadyExists := by
    rw [putNew_eq hp, hq, hspot]
    rfl
  rw [ensureDir, hput]
  exact if_pos hisDir

/-- A directory that is missing is put in its place, if those above it are there. -/
theorem ensureDir_of_vacant (hp : p.IsPlain) (hopen : d.Open d.workDir p.names.dropLast)
    (hnone : d.node? (d.workDir ++ p.names) = none)
    (hends : endsInName (withoutSlashes p.text) = true) :
    d.ensureDir p = (.ok (), d.put (d.workDir ++ p.names) .dir) := by
  obtain ⟨q, hq, hbare, hnames⟩ := exists_eq_withoutSlashes hp
  rw [← hnames] at hopen hnone ⊢
  have hspot : d.spotOf .place q.text = _ :=
    spotOf_of_open hbare hopen (by rw [hnone]; exact nofun) nofun
  rw [hnone] at hspot
  simp only [if_pos (hq ▸ hends)] at hspot
  have hput : d.putNew p.text .dir = .ok (d.put (d.workDir ++ q.names) .dir) := by
    rw [putNew_eq hp, hq, hspot]
    rfl
  rw [ensureDir, hput]

/-- If one above it is missing, the directory is not made and the disk stays as it is. -/
theorem ensureDir_of_gap (hp : p.IsPlain) (h : d.Way p.names) {ms rest : List String} {n : String}
    (hnames : p.names = ms ++ n :: rest) (hrest : rest ≠ []) (hopen : d.Open d.workDir ms)
    (hgap : d.node? (d.workDir ++ (ms ++ [n])) = none)
    (hnone : d.node? (d.workDir ++ p.names) = none) : d.ensureDir p = (.error .notFound, d) := by
  have hisDir : ¬d.isDir p.text = true := by
    have hnode : d.nodeAt .target p.text = _ := nodeAt_eq hp h nofun
    rw [isDir, hnode, hnone]
    exact Bool.false_ne_true
  obtain ⟨q, hq, hbare, hsame⟩ := exists_eq_withoutSlashes hp
  have hspot : d.spotOf .place q.text = _ :=
    spotOf_of_gap hbare (hsame.trans hnames) hrest hopen hgap nofun
  have hput : d.putNew p.text .dir = .error .notFound := by
    rw [putNew_eq hp, hq, hspot]
    rfl
  rw [ensureDir, hput]
  exact if_neg hisDir

/-! ## Creating -/

/-- The disk `d'` is `d` with the node at the names, and with the directories above that were
missing. -/
structure Created (d d' : Disk) (ns : List String) (n : Node) : Prop where
  workDir_eq : d'.workDir = d.workDir
  node?_eq : ∀ m, d'.node? (d.workDir ++ m) =
    if ns = m then some n
    else (d.node? (d.workDir ++ m)).or (if m <+: ns then some .dir else none)

/-- Directories down to a plain path are made as far as they are missing, if no file is in the
way. -/
theorem ensureDirs_eq (hp : p.IsPlain) (h : d.Way p.names)
    (hdir : ∀ n, d.node? (d.workDir ++ p.names) = some n → n = .dir)
    (hends : d.node? (d.workDir ++ p.names) = none → endsInName (withoutSlashes p.text) = true) :
    ∃ d', ensureDirs (p :: p.ancestors) d = (.ok (), d') ∧ Grown d d' p.names := by
  -- the first attempt fails without a change, so the parents are made on the same disk
  generalize hl : p.names.length = l
  induction l using Nat.strongRecOn generalizing p with
  | ind l ih =>
    have hne := hp.hasNames.names_ne_nil
    have hparts : ¬p.isEmpty = true := fun he => hp.hasNames.parts_ne_nil (Path.isEmpty_iff.1 he)
    rw [ensureDirs, if_neg hparts]
    cases hk : d.node? (d.workDir ++ p.names) with
    | some n =>
      obtain rfl := hdir n hk
      have hopen : d.Open d.workDir p.names := fun m hm => by
        rcases eq_or_ne m p.names with rfl | hmp
        · exact hk
        · exact h.open_of_some hne hk m ((prefix_dropLast_iff hne).2 ⟨hm, hmp⟩)
      exact ⟨d, by rw [ensureDir_of_dir hp h hk], grown_refl_of_open hopen⟩
    | none =>
      rcases h.open_or_gap hne with hopen | ⟨m, n, rest, hnames, hrest, hopen, hgap, -⟩
      · exact ⟨_, by rw [ensureDir_of_vacant hp hopen hk (hends hk)],
          (grown_refl_of_open hopen).put hne hk⟩
      · have hlong : p.names.dropLast ≠ [] := by
          rw [hnames, List.dropLast_append_cons, List.dropLast_cons_of_ne_nil hrest]
          exact List.append_ne_nil_of_right_ne_nil _ (List.cons_ne_nil _ _)
        obtain ⟨q, hq, hqp, hqnames, hqends⟩ := exists_parent_of_isPlain hp hlong
        have hlt : q.names.length < l := by
          rw [hqnames, List.length_dropLast, ← hl]
          exact Nat.sub_one_lt (mt List.length_eq_zero_iff.1 hne)
        obtain ⟨d', hd', hgrown⟩ := ih _ hlt hqp (hqnames ▸ h.dropLast hne)
          (fun k => h.dir_of_dropLast hne (hqnames ▸ List.prefix_refl _))
          (fun _ => (withoutSlashes_of_endsInName hqends).symm ▸ hqends) rfl
        rw [hqnames] at hgrown
        have hput := ensureDir_of_vacant hp (hgrown.open_dropLast hne h)
          ((hgrown.node?_eq_self hne).trans hk) (hends hk)
        rw [hgrown.workDir_eq] at hput
        refine ⟨d'.put (d.workDir ++ p.names) .dir, ?_, hgrown.put hne hk⟩
        rw [ensureDir_of_gap hp h hnames hrest hopen hgap hk, Path.ancestors_eq, hq]
        simp only [hd', hput]

/-- **Creating a directory at a plain path.**  A text that goes on behind the last name with more
than slashes is fine only if the directory is there. -/
theorem createDir_eq (hp : p.IsPlain) (h : d.Way p.names)
    (hdir : ∀ n, d.node? (d.workDir ++ p.names) = some n → n = .dir)
    (hends : d.node? (d.workDir ++ p.names) = none → endsInName (withoutSlashes p.text) = true) :
    ∃ d', d.createDir p = (.ok (), d') ∧ Created d d' p.names .dir := by
  obtain ⟨d', hd', hgrown⟩ := ensureDirs_eq hp h hdir hends
  refine ⟨d', hd', hgrown.workDir_eq, fun m => ?_⟩
  rw [hgrown.node?_eq]
  rcases eq_or_ne p.names m with rfl | hm
  · rw [if_pos rfl, if_pos (List.prefix_refl _)]
    cases hk : d.node? (d.workDir ++ p.names) with
    | none => rfl
    | some n => rw [hdir n hk, Option.some_or]
  · rw [if_neg hm]

/-- The directories above a plain path are made as far as they are missing. -/
theorem createParents_eq (hp : p.IsPlain) (h : d.Way p.names) :
    ∃ d', d.createParents p = (.ok (), d') ∧ Grown d d' p.names.dropLast := by
  have hne := hp.hasNames.names_ne_nil
  by_cases hlong : p.names.dropLast = []
  · obtain ⟨q, hq, hparts⟩ := hp.hasNames.exists_parent
    have hempty : q.isEmpty = true := Path.isEmpty_iff.2 (by rw [hparts, hlong, List.map_nil])
    refine ⟨d, ?_, grown_refl_of_open fun m hm => ?_⟩
    · rw [createParents, Path.ancestors_eq, hq]
      exact if_pos hempty
    · rw [hlong] at hm
      rw [List.prefix_nil.1 hm, List.append_nil]
      exact h.start
  · obtain ⟨q, hq, hqp, hqnames, hqends⟩ := exists_parent_of_isPlain hp hlong
    obtain ⟨d', hd', hgrown⟩ := ensureDirs_eq hqp (hqnames ▸ h.dropLast hne)
      (fun n => h.dir_of_dropLast hne (hqnames ▸ List.prefix_refl _))
      (fun _ => (withoutSlashes_of_endsInName hqends).symm ▸ hqends)
    refine ⟨d', ?_, hqnames ▸ hgrown⟩
    rw [createParents, Path.ancestors_eq, hq]
    exact hd'

/-- **Creating a file at a plain path.**  Its text has to end in the name of the file. -/
theorem createFile_eq (hp : p.IsPlain) (h : d.Way p.names)
    (hfile : ∀ n, d.node? (d.workDir ++ p.names) = some n → n = .file)
    (hends : endsInName p.text = true) :
    ∃ d', d.createFile p = (.ok (), d') ∧ Created d d' p.names .file := by
  have hne := hp.hasNames.names_ne_nil
  obtain ⟨d', hd', hgrown⟩ := createParents_eq hp h
  have hsame := hgrown.node?_eq_self hne
  have hspot : d'.spotOf .file p.text = _ :=
    spotOf_of_open hp (hgrown.open_dropLast hne h) (hsame ▸ h.noLink) fun _ => hends
  rw [createFile, hd']
  rw [hsame] at hspot
  cases hk : d.node? (d.workDir ++ p.names) with
  | none =>
    have hmake : d'.makeFile p = .ok (d'.put (d.workDir ++ p.names) .file) := by
      simp only [hk, if_pos hends] at hspot
      rw [makeFile, hspot, hgrown.workDir_eq]
      rfl
    refine ⟨d'.put (d.workDir ++ p.names) .file, by simp only [hmake], hgrown.workDir_eq,
      fun m => ?_⟩
    rw [node?_put _ hne]
    split
    · rfl
    · next hm => exact hgrown.node?_eq_of_ne hne hm
  | some n =>
    obtain rfl := hfile n hk
    have hmake : d'.makeFile p = .ok d' := by
      simp only [hk, if_pos hends] at hspot
      rw [makeFile, hspot]
      show (if d'.node? (d'.workDir ++ p.names) = some .dir then _ else Except.ok d') = _
      rw [hsame, hk]
      rfl
    refine ⟨d', by simp only [hmake], hgrown.workDir_eq, fun m => ?_⟩
    split
    · next hm => rw [← hm, ← hgrown.workDir_eq, hsame, hk]
    · next hm => exact hgrown.node?_eq_of_ne hne hm

/-! ## Deleting -/

/-- The disk `d'` is `d` without anything at or below the names. -/
structure Cleared (d d' : Disk) (ns : List String) : Prop where
  workDir_eq : d'.workDir = d.workDir
  node?_eq : ∀ m, d'.node? (d.workDir ++ m) = if ns <+: m then none else d.node? (d.workDir ++ m)

/-- Once the directory at a plain path is empty it can be removed. -/
theorem removeDir_eq (hp : p.IsPlain) (h : d.Way p.names)
    (hdir : d.node? (d.workDir ++ p.names) = some .dir)
    (hends : endsInName (withoutSlashes p.text) = true) :
    d.removeDir p.text = .ok (d.without (d.workDir ++ p.names)) := by
  obtain ⟨q, hq, hbare, hnames⟩ := exists_eq_withoutSlashes hp
  rw [← hnames] at h hdir ⊢
  rw [hq] at hends
  have hnode : d.nodeAt .place q.text = _ := nodeAt_eq hbare h nofun
  rw [removeDir, hq]
  rw [endsInName] at hends
  split at hends
  · next hlast =>
    simp only [hlast, hnode, hdir]
    rfl
  · cases hends

/-- **Deleting a plain path** removes what is at or below it, and nothing else.  What is there has
to be named without anything behind the name; only a directory may have slashes there. -/
theorem delete_eq (hp : p.IsPlain) (h : d.Way p.names)
    (hdir : d.node? (d.workDir ++ p.names) = some .dir → endsInName (withoutSlashes p.text) = true)
    (hfile : d.node? (d.workDir ++ p.names) = some .file → endsInName p.text = true)
    (hleaf : d.node? (d.workDir ++ p.names) ≠ some .dir →
      ∀ m, p.names <+: m → p.names ≠ m → d.node? (d.workDir ++ m) = none) :
    ∃ d', d.delete p = (.ok (), d') ∧ Cleared d d' p.names := by
  have hne := hp.hasNames.names_ne_nil
  have hnode : d.nodeAt .place p.text = _ := nodeAt_eq hp h nofun
  rw [delete, hnode]
  cases hk : d.node? (d.workDir ++ p.names) with
  | none =>
    refine ⟨d, rfl, rfl, fun m => ?_⟩
    split
    · next hm =>
      rcases eq_or_ne p.names m with rfl | hm'
      · exact hk
      · exact hleaf (hk ▸ nofun) m hm hm'
    · rfl
  | some n =>
    cases n with
    | link target => exact absurd hk (h.noLink target)
    | file =>
      simp only [if_pos (hfile hk)]
      refine ⟨d.without (d.workDir ++ p.names), rfl, rfl, fun m => ?_⟩
      rw [node?_without _ hne]
      by_cases hm : p.names <+: m
      · rw [if_pos hm]
        split
        · rfl
        · next hm' => exact hleaf (by simp [hk]) m hm hm'
      · rw [if_neg hm, if_neg]
        rintro rfl
        exact hm (List.prefix_refl _)
    | dir =>
      have hsame : ∀ m, m <+: p.names →
          (d.emptied (d.workDir ++ p.names)).node? (d.workDir ++ m) = d.node? (d.workDir ++ m) :=
        fun m hm => by
          rw [node?_emptied, if_neg]
          exact fun h => h.2 (h.1.eq_of_length_le hm.length_le)
      have hremove : (d.emptied (d.workDir ++ p.names)).removeDir p.text = _ :=
        removeDir_eq hp (h.congr rfl hsame) ((hsame _ (List.prefix_refl _)).trans hk) (hdir hk)
      refine ⟨(d.emptied (d.workDir ++ p.names)).without (d.workDir ++ p.names),
        by simp only [hremove]; rfl, rfl, fun m => ?_⟩
      rw [node?_without _ hne, node?_emptied]
      rcases eq_or_ne p.names m with rfl | hm
      · rw [if_pos rfl, if_pos (List.prefix_refl _)]
      · simp only [if_neg hm, and_iff_left hm]

end Disk
end IndexShards
