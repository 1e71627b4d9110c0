import IndexShards.Proofs.Tree.Runs

/-!
# What a creation that fails leaves behind

A creation looks at its own path first, and gives up at once if an entry of the other kind is there.
Then it climbs, and makes the directories that are missing as it meets them, from the lowest one up.
A file on the way ends the climb, but the directories that were made below the file are not taken
back.  So a call that fails may leave directories below a file, where nothing can be created or
listed from then on.

It leaves nothing exactly if it had nothing to make, and since every tree that calls lead to is
rooted, it is enough to look at the parent: if that is there, so is everything above it.

## What is here

* `Call.path` — the path that a call is about.
* `Blocks t c a e` — the entry at `a` is why the call `c` fails with the error `e`.
* `create_error` — the file that a creation fails at is the first one above its path, and the
  directories between the two are all there afterwards.
* `Rooted.contains_of_perform_eq_self` — what leaves nothing behind had nothing to make.
* `perform_error` — **what a failed call leaves behind, and when it leaves the tree as it was**.
-/

set_option autoImplicit false

namespace IndexShards
namespace Tree

variable {t : Tree} {p a x : Path} {e : Error}

/-! ## What is in the way -/

/-- The path that a call is about. -/
def Call.path : Call → Path
  | createDir path => path
  | createFile path => path
  | delete path => path

/-- The entry at `a` is in the way of a call, which fails with the error `e`. -/
inductive Blocks (t : Tree) : Call → Path → Error → Prop
  /-- A directory is wanted where a file is. -/
  | file {p : Path} (h : t.kind? p = some false) :
      Blocks t (.createDir p) p (.storage (.isFile p))
  /-- A file is wanted where a directory is. -/
  | directory {p : Path} (h : t.kind? p = some true) :
      Blocks t (.createFile p) p (.storage (.isDirectory p))
  /-- A file is above the path, and no other one is between the two. -/
  | above {c : Call} {a : Path} (habove : a.IsAbove c.path) (hne : a.isEmpty = false)
      (h : t.kind? a = some false)
      (hclear : ∀ x : Path, a.IsAbove x → x.IsAbove c.path → t.kind? x ≠ some false) :
      Blocks t c a (.storage (.isFile a))

theorem Blocks.contains {c : Call} (h : Blocks t c a e) : t.contains a = true := by
  cases h with
  | file hk => exact contains_of_kind? hk
  | directory hk => exact contains_of_kind? hk
  | above _ _ hk => exact contains_of_kind? hk

theorem Blocks.isAtOrAbove {c : Call} (h : Blocks t c a e) : a.isAtOrAbove c.path = true := by
  cases h with
  | file => exact Path.isAtOrAbove_refl a
  | directory => exact Path.isAtOrAbove_refl a
  | above habove => exact habove.1

/-! ## Where a climb ends -/

/-- A climb that fails does so at the first file that it meets. -/
theorem exists_split_of_createAncestors {ps : List Path}
    (h : (createAncestors ps t).1 = .error e) :
    ∃ before a after, ps = before ++ a :: after ∧ (∀ b ∈ before, t.kind? b ≠ some false) ∧
      t.kind? a = some false ∧ e = .storage (.isFile a) := by
  induction ps generalizing t with
  | nil => cases h
  | cons p ps ih =>
    rw [createAncestors] at h
    split at h
    · cases h
    · split at h
      · next hk =>
        obtain ⟨before, a, after, rfl, hbefore, ha⟩ := ih h
        refine ⟨p :: before, a, after, rfl, ?_, ha⟩
        exact List.forall_mem_cons.2 ⟨by rw [hk]; decide, hbefore⟩
      · next hk =>
        cases h
        exact ⟨[], p, ps, rfl, List.forall_mem_nil _, hk, rfl⟩
      · next hk =>
        -- the directory that was made on the way is no file, and nothing else has changed
        have hput : ∀ x : Path, (t.put p true).kind? x = some false ↔ t.kind? x = some false := by
          intro x
          rw [kind?_put]
          split
          · next hpx => simp [← t.kind?_congr hpx, hk]
          · rfl
        obtain ⟨before, a, after, rfl, hbefore, ha, he⟩ := ih h
        refine ⟨p :: before, a, after, rfl, ?_, (hput a).1 ha, he⟩
        refine List.forall_mem_cons.2 ⟨by rw [hk]; decide, ?_⟩
        intro b hb
        exact mt (hput b).2 (hbefore b hb)

/-- If nothing is missing, the climb makes nothing. -/
theorem createAncestors_of_contains {ps : List Path}
    (h : ∀ q ∈ ps, q.isEmpty = false → t.contains q = true) : (createAncestors ps t).2 = t := by
  induction ps with
  | nil => rfl
  | cons p ps ih =>
    obtain ⟨hp, hps⟩ := List.forall_mem_cons.1 h
    rw [createAncestors]
    split
    · rfl
    · next hne =>
      have hthere := hp (by simpa using hne)
      rw [contains_eq_isSome_kind?] at hthere
      split
      · exact ih hps
      · rfl
      · next hk => simp [hk] at hthere

/-- What is above a path and has more parts than one of the ancestors is a lower ancestor. -/
theorem exists_mem_of_isAbove {before after : List Path} (h : p.ancestors = before ++ a :: after)
    (hx : x.IsAbove p) (hlt : a.parts.length < x.parts.length) : ∃ b ∈ before, b ≈ x := by
  induction before generalizing p with
  | nil =>
    rw [Path.ancestors_eq] at h
    split at h
    · cases h
    · next q hq =>
      obtain ⟨rfl, -⟩ := List.cons.inj h
      have hxq := (Path.isChildOf_of_parent? hq).isAbove_iff.1 hx
      have hle := (Path.isAtOrAbove_iff.1 hxq).length_le
      omega
  | cons b before ih =>
    rw [Path.ancestors_eq] at h
    split at h
    · cases h
    · next q hq =>
      obtain ⟨rfl, htail⟩ := List.cons.inj h
      have hxq := (Path.isChildOf_of_parent? hq).isAbove_iff.1 hx
      rcases Path.isAtOrAbove_iff_isAbove.1 hxq with he | habove
      · exact ⟨q, by simp, Path.equiv_symm he⟩
      · obtain ⟨d, hd, hdx⟩ := ih htail habove
        exact ⟨d, List.mem_cons_of_mem _ hd, hdx⟩

/-- Between `a` and a path below it are those places above the path that have more parts. -/
theorem between_iff (ha : a.IsAbove p) :
    a.IsAbove x ∧ x.IsAbove p ↔ x.IsAbove p ∧ a.parts.length < x.parts.length := by
  constructor
  · rintro ⟨hax, hxp⟩
    exact ⟨hxp, (Path.isAbove_iff.1 hax).2⟩
  · rintro ⟨hxp, hlt⟩
    refine ⟨Path.isAbove_iff.2 ⟨?_, hlt⟩, hxp⟩
    exact Path.isAtOrAbove_total_of_isAtOrAbove ha.1 hxp.1 (Nat.le_of_lt hlt)

/-! ## One creation -/

/-- **A creation fails at the first file above its path**, and the directories between the two are
all there afterwards. -/
theorem create_error {isDir : Bool} (h : (t.create p isDir).1 = .error e) :
    ∃ a : Path, a.IsAbove p ∧ a.isEmpty = false ∧ t.kind? a = some false ∧
      e = .storage (.isFile a) ∧
      (∀ x : Path, a.IsAbove x → x.IsAbove p → t.kind? x ≠ some false) ∧
      ∀ x : Path, (t.create p isDir).2.kind? x =
        if a.IsAbove x ∧ x.IsAbove p then some true else t.kind? x := by
  obtain ⟨n, hclimb, hfill⟩ := filled_createAncestors t p
  have hsplit := fun e (herror : (createAncestors p.ancestors t).1 = .error e) =>
    exists_split_of_createAncestors herror
  rw [create] at h ⊢
  generalize createAncestors p.ancestors t = out at hclimb hfill hsplit h ⊢
  obtain ⟨answer, filled⟩ := out
  cases hclimb with
  | top => cases h
  | @file a habove hpos hk =>
    cases h
    obtain ⟨before, a', after, hancestors, hbefore, -, he⟩ := hsplit _ rfl
    cases he
    have hclear : ∀ x : Path, a.IsAbove x → x.IsAbove p → t.kind? x ≠ some false := by
      intro x hax hxp
      obtain ⟨b, hb, hbx⟩ := exists_mem_of_isAbove hancestors hxp (Path.isAbove_iff.1 hax).2
      rw [← t.kind?_congr hbx]
      exact hbefore b hb
    refine ⟨a, habove, Path.isEmpty_eq_false_iff.2 hpos, hk, rfl, hclear, ?_⟩
    intro x
    rw [hfill x, if_congr (between_iff habove).symm rfl rfl]
    split
    · next hx =>
      have hno := hclear x hx.1 hx.2
      rcases hkx : t.kind? x with _ | _ | _
      · rfl
      · exact absurd hkx hno
      · rfl
    · rw [Option.or_none]

/-- A creation that has no directory to make and fails leaves the tree as it was. -/
theorem create_of_contains {isDir : Bool} (h : (t.create p isDir).1 = .error e)
    (hthere : ∀ q ∈ p.ancestors, q.isEmpty = false → t.contains q = true) :
    (t.create p isDir).2 = t := by
  have hsame := createAncestors_of_contains hthere
  rw [create] at h ⊢
  generalize createAncestors p.ancestors t = out at hsame h ⊢
  obtain ⟨answer, filled⟩ := out
  cases answer with
  | ok => cases h
  | error => exact hsame

/-! ## Calls that fail -/

/-- A call fails at its own path, and then changes nothing, or else as a creation. -/
theorem perform_error_cases {c : Call} (h : (t.perform c).1 = .error e) :
    (Blocks t c c.path e ∧ (t.perform c).2 = t) ∨
      ∃ isDir, t.perform c = t.create c.path isDir := by
  cases c with
  | createDir p =>
    rw [perform, createDir] at h ⊢
    by_cases hk : t.kind? p = some false
    · rw [if_pos hk] at h ⊢
      cases h
      exact Or.inl ⟨.file hk, rfl⟩
    · exact Or.inr ⟨true, if_neg hk⟩
  | createFile p =>
    rw [perform, createFile] at h ⊢
    by_cases hk : t.kind? p = some true
    · rw [if_pos hk] at h ⊢
      cases h
      exact Or.inl ⟨.directory hk, rfl⟩
    · exact Or.inr ⟨false, if_neg hk⟩
  | delete p => cases h

/-- What is in the way of a call that fails, and that the directories between this and the path of
the call are there afterwards. -/
theorem exists_blocks_of_error {c : Call} (h : (t.perform c).1 = .error e) :
    ∃ a, Blocks t c a e ∧ ∀ x : Path, (t.perform c).2.kind? x =
      if a.IsAbove x ∧ x.IsAbove c.path then some true else t.kind? x := by
  rcases perform_error_cases h with ⟨hblocks, hsame⟩ | ⟨isDir, hcreate⟩
  · refine ⟨c.path, hblocks, ?_⟩
    intro x
    rw [hsame, if_neg]
    rintro ⟨hpx, hxp⟩
    have hlt := (Path.isAbove_iff.1 hpx).2
    have hgt := (Path.isAbove_iff.1 hxp).2
    omega
  · rw [hcreate] at h ⊢
    obtain ⟨a, habove, hne, ha, rfl, hclear, hleft⟩ := create_error h
    exact ⟨a, .above habove hne ha hclear, hleft⟩

/-- If the parent of a path is there, so is in a rooted tree everything above the path. -/
theorem Rooted.contains_of_mem_ancestors (h : Rooted t)
    (hparent : ∀ q : Path, p.IsChildOf q → q.isEmpty = false → t.contains q = true) :
    ∀ q ∈ p.ancestors, q.isEmpty = false → t.contains q = true := by
  intro q hq hne
  rw [Path.isEmpty_eq_false_iff] at hne
  rw [Path.ancestors_eq] at hq
  split at hq
  · cases hq
  · next d hd =>
    have hchild := Path.isChildOf_of_parent? hd
    rcases List.mem_cons.1 hq with rfl | hq
    · exact hparent q hchild (Path.isEmpty_eq_false_iff.2 hne)
    · have hpre := (Path.parts_of_mem_ancestors hq).1
      have hd : d.parts ≠ [] := fun hnil => hne (List.prefix_nil.1 (hnil ▸ hpre))
      exact h.contains_of_isAtOrAbove (Path.isAtOrAbove_iff.2 hpre) hne
        (hparent d hchild (Path.isEmpty_eq_false_iff.2 hd))

/-- A call that fails and leaves a rooted tree as it was has found the parent of its path. -/
theorem Rooted.contains_of_perform_eq_self (hroot : Rooted t) {c : Call}
    (h : (t.perform c).1 = .error e) (hsame : (t.perform c).2 = t) {q : Path}
    (hq : c.path.IsChildOf q) (hne : q.isEmpty = false) : t.contains q = true := by
  have hqc : q.IsAbove c.path := hq.isAbove_iff.2 (Path.isAtOrAbove_refl q)
  obtain ⟨a, hblocks, hleft⟩ := exists_blocks_of_error h
  rcases Path.isAtOrAbove_iff_isAbove.1 hblocks.isAtOrAbove with hac | hac
  · have hqa : q.isAtOrAbove a = true := by
      rw [Path.isAtOrAbove_congr (Path.equiv_refl q) hac]
      exact hqc.1
    exact hroot.contains_of_isAtOrAbove hqa (Path.isEmpty_eq_false_iff.1 hne) hblocks.contains
  · rcases Path.isAtOrAbove_iff_isAbove.1 (hq.isAbove_iff.1 hac) with haq | haq
    · rw [← t.contains_congr haq]
      exact hblocks.contains
    · -- the parent is a directory afterwards, so it was one before
      have hk := hleft q
      rw [hsame, if_pos ⟨haq, hqc⟩] at hk
      exact contains_of_kind? hk

/-- **What a failed call leaves behind.**  An entry is in its way, and afterwards all places between
that entry and the path of the call are directories, and everything else is as before.  So the tree
is the same as before exactly if the parent of the path was there. -/
theorem perform_error {c : Call} (hreach : Reachable t) (h : (t.perform c).1 = .error e) :
    (∃ a, Blocks t c a e ∧ ∀ x : Path, (t.perform c).2.kind? x =
      if a.IsAbove x ∧ x.IsAbove c.path then some true else t.kind? x) ∧
    ((t.perform c).2 = t ↔
      ∀ q : Path, c.path.IsChildOf q → q.isEmpty = false → t.contains q = true) := by
  refine ⟨exists_blocks_of_error h, ?_, ?_⟩
  · intro hsame q hq hne
    exact hreach.rooted.contains_of_perform_eq_self h hsame hq hne
  · intro hparent
    rcases perform_error_cases h with ⟨-, hsame⟩ | ⟨isDir, hcreate⟩
    · exact hsame
    · rw [hcreate] at h ⊢
      exact create_of_contains h (hreach.rooted.contains_of_mem_ancestors hparent)

/-- Directly below a file nothing is made; two levels further down two directories are. -/
theorem perform_error_of_file_above :
    let t := (empty.createFile ⟨"/a"⟩).2
    let near := Call.createDir ⟨"/a/b"⟩
    let far := Call.createFile ⟨"/a/b/./c//d"⟩
    (t.perform near).1 = .error (.storage (.isFile ⟨"/a"⟩)) ∧ (t.perform near).2 = t ∧
      (t.perform far).1 = .error (.storage (.isFile ⟨"/a"⟩)) ∧ (t.perform far).2 ≠ t ∧
      (t.perform far).2.kind? ⟨"/a/b/c"⟩ = some true := by
  intro t near far
  have hreach : Reachable t := .createFile _ .empty
  have hnear : (t.perform near).1 = .error (.storage (.isFile ⟨"/a"⟩)) := by rfl
  have hfar : (t.perform far).1 = .error (.storage (.isFile ⟨"/a"⟩)) := by rfl
  refine ⟨hnear, ?_, hfar, ?_, ?_⟩
  · refine (perform_error hreach hnear).2.2 ?_
    intro q hq _
    have hqa : (⟨"/a"⟩ : Path) ≈ q := by
      rw [Path.equiv_iff, (Path.isChildOf_iff.1 hq).1]
      decide +kernel
    rw [← t.contains_congr hqa]
    decide +kernel
  · intro hsame
    have hmissing : t.contains ⟨"/a/b/c"⟩ = false := by decide +kernel
    have hparent := (perform_error hreach hfar).2.1 hsame ⟨"/a/b/c"⟩
    rw [hparent (by decide +kernel) (by decide)] at hmissing
    cases hmissing
  · decide +kernel

/-- A file is at `/a`, and the directory `/a/b/c` is asked for.  That fails, and afterwards the
directory `/a/b` is there, which was not there before. -/
theorem not_forall_perform_error_unchanged :
    let t := (empty.createFile ⟨"/a"⟩).2
    let c := Call.createDir ⟨"/a/b/c"⟩
    Reachable t ∧ (t.perform c).1 = .error (.storage (.isFile ⟨"/a"⟩)) ∧
      t.contains ⟨"/a/b"⟩ = false ∧ (t.perform c).2.contains ⟨"/a/b"⟩ = true ∧
      t.size = 2 ∧ (t.perform c).2.size = 3 ∧
      ¬∀ (t : Tree) (c : Call) (e : Error), Reachable t → (t.perform c).1 = .error e →
        ∀ x : Path, (t.perform c).2.kind? x = t.kind? x := by
  intro t c
  have hreach : Reachable t := .createFile _ .empty
  have herror : (t.perform c).1 = .error (.storage (.isFile ⟨"/a"⟩)) := by rfl
  have hbefore : t.contains ⟨"/a/b"⟩ = false := by decide +kernel
  have hafter : (t.perform c).2.contains ⟨"/a/b"⟩ = true := by decide +kernel
  refine ⟨hreach, herror, hbefore, hafter, by decide +kernel, by decide +kernel, ?_⟩
  intro hall
  have hsame := hall t c _ hreach herror ⟨"/a/b"⟩
  rw [contains_eq_isSome_kind?, hsame, ← contains_eq_isSome_kind?, hbefore] at hafter
  cases hafter

end Tree
end IndexShards
