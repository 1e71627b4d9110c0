import IndexShards.Proofs.Drop.Planning
import IndexShards.Proofs.Path.Join
import IndexShards.Proofs.Registry
import IndexShards.Proofs.Tree.Runs

/-!
# What a drop leaves of another index

Every index has a directory of its own in every segment, which is its name joined to the directory
of the segment.  The only thing that is asked of the name is that it is not blank.  So the name may
be a single dot, and then the directory is the whole segment; it may be `a/b`, and then it lies in
the directory of the index `a`; or it may start with a slash, and then it has nothing to do with the
segment.  A drop of the one index takes the other one along wherever their directories meet, and
spares it everywhere else.

## What is here

* `Manager.Spares` — a drop leaves a directory alone, in the tree and in every plan.
  `spares_of_not_meets` says when it does.
* `Neighbours`, `DropSpares` — two indexes on one table of a host, and that a drop of the first
  spares the second, whatever the host is like.
* `dropSpares_iff` — **it does on a table if their directories never meet**.
* `NamesApart` — the condition on the two names that this comes to; for single names,
  `namesApart_iff_ne`, it is that they are different.
* `forall_dropSpares_iff` — **it does on every table if the names are apart**.
-/

set_option autoImplicit false

namespace IndexShards

variable {α : Type} {A B : String} {table : TableId}

/-! ## What a drop leaves alone -/

/-- In the state `w`, a drop spares the directory `d`: the entries at or below it stay, and whoever
plans over the same tree and registry plans the same shards there as before, in the same order. -/
structure Manager.Spares (m : Manager (Host α)) (refusals : α → Refusals)
    (registry : α → Except Error Registry) (w : Host α) (d : Path) : Prop where
  kept : (m.dropData w).world.tree.entries.filter (fun e => d.isAtOrAbove e.path) =
    w.tree.entries.filter fun e => d.isAtOrAbove e.path
  planned : ∀ m' : Manager (Host α), m'.storage = Host.storage refusals →
    m'.registry = Host.indexes registry → ∀ segment filter,
      (m'.listTasks segment filter (m.dropData w).world).value.filter
          (fun t => d.isAtOrAbove t.shardPath) =
        (m'.listTasks segment filter w).value.filter fun t => d.isAtOrAbove t.shardPath

theorem Manager.Spares.contains {m : Manager (Host α)} {refusals : α → Refusals}
    {registry : α → Except Error Registry} {w : Host α} {d p : Path}
    (h : m.Spares refusals registry w d) (hp : d.isAtOrAbove p = true)
    (hthere : w.tree.contains p = true) : (m.dropData w).world.tree.contains p = true := by
  obtain ⟨e, he, hep⟩ := Tree.contains_iff.1 hthere
  have hmem : e ∈ w.tree.entries.filter fun e => d.isAtOrAbove e.path :=
    List.mem_filter.2 ⟨he, Path.isAtOrAbove_trans hp
      (Path.isAtOrAbove_of_equiv (Path.equiv_symm hep))⟩
  rw [← h.kept] at hmem
  exact Tree.contains_iff.2 ⟨e, (List.mem_filter.1 hmem).1, hep⟩

/-- **A drop spares what meets none of its directories.** -/
theorem Manager.spares_of_not_meets {m : Manager (Host α)} {refusals : α → Refusals}
    (hs : m.storage = Host.storage refusals) (registry : α → Except Error Registry) {w : Host α}
    {d : Path}
    (h : ∀ ids, m.status w m.table = .ok ids → ∀ s ∈ ids, ¬(m.indexDir s).Meets d) :
    m.Spares refusals registry w d := by
  cases hstatus : m.status w m.table with
  | error e =>
    have hworld := (dropData_of_error hstatus).1
    exact ⟨by rw [hworld], fun _ _ _ _ _ => by rw [hworld]⟩
  | ok ids =>
    have hworld := (dropData_of_ok hstatus).1
    have hfree : ∀ p : Path, (d.isAtOrAbove p && decide ¬m.Taken (m.dropSegments ids w).1 p) =
        d.isAtOrAbove p := fun p => by
      cases hp : d.isAtOrAbove p with
      | false => rfl
      | true =>
        refine decide_eq_true fun htaken => ?_
        obtain ⟨s, hmem, -, hsp⟩ := (taken_dropSegments_iff hs ids w p).1 htaken
        exact h ids hstatus s hmem (Path.meets_iff.2 ⟨p, hsp, hp⟩)
    constructor
    · rw [hworld, entries_dropSegments hs, List.filter_filter]
      exact List.filter_congr fun e _ => hfree e.path
    · intro m' hs' hr' segment filter
      let indexes : α → TableId → Except Error (List Registration) := fun a t =>
        (registry a).map fun r => r.indexesOf t
      have hindexes : m'.registry = fun w => indexes w.rest := hr'
      rw [hworld, listTasks_dropSegments hs hs' hindexes, List.filter_filter]
      exact List.filter_congr fun t _ => hfree t.shardPath

/-! ## Two indexes on a table -/

/-- The manager `m` of the index `A` works on a host where `A` and `B` are registered for the table
and the valid segments are single names. -/
structure Neighbours (table : TableId) (A B : String) (refusals : α → Refusals)
    (registry : α → Except Error Registry) (m : Manager (Host α)) (w : Host α) : Prop where
  initialized : m.Initialized
  table_eq : m.table = table
  indexName_eq : m.indexName = A
  storage_eq : m.storage = Host.storage refusals
  registered : ∃ calls, registry w.rest = .ok (.reached calls) ∧
    A ∈ Registry.names ((Registry.reached calls).indexesOf table) ∧
    B ∈ Registry.names ((Registry.reached calls).indexesOf table)
  segments : ∀ ids, m.status w table = .ok ids → ∀ s ∈ ids, s.IsName
  reachable : w.tree.Reachable

/-- A drop of the index `A` of the table spares the directories of the index `B` in all segments
that are single names, whatever is in the tree and whichever calls are refused. -/
def DropSpares (table : TableId) (A B : String) : Prop :=
  ∀ (α : Type) (refusals : α → Refusals) (registry : α → Except Error Registry)
    (m : Manager (Host α)) (w : Host α), Neighbours table A B refusals registry m w →
    ∀ s : SegmentId, s.IsName → m.Spares refusals registry w (indexPath table s B)

/-- The registry after two text indexes have been registered for a table. -/
def Registry.ofTwo (table : TableId) (A B : String) : Registry :=
  .reached [.register table (.text A), .register table (.text B)]

theorem Registry.indexesOf_ofTwo (hne : A ≠ B) (table : TableId) :
    (Registry.ofTwo table A B).indexesOf table = [.text A, .text B] := by
  have htable : table ≈ table := ⟨rfl, Path.equiv_refl _⟩
  rw [ofTwo, indexesOf_reached, listOf]
  simp [Call.table, htable, listAfter, names, Registration.text, hne.symm]

/-- Two indexes with names that are not blank are neighbours on a host with one segment, whatever is
in the tree. -/
theorem neighbours_manager (hne : A ≠ B) (hA : Text.isBlankText A = false) (table : TableId)
    {s : SegmentId} (hs : s.IsName) {t : Tree} (ht : t.Reachable) :
    Neighbours table A B (fun _ : Unit => {}) (fun _ => .ok (.ofTwo table A B))
      (Host.manager table A [s] (fun _ => {}) fun _ => .ok (.ofTwo table A B)) ⟨t, ()⟩ := by
  have hnames : Registry.names ((Registry.ofTwo table A B).indexesOf table) = [A, B] := by
    rw [Registry.indexesOf_ofTwo hne]
    rfl
  exact
    { initialized := Host.initialized_manager hA
      table_eq := rfl
      indexName_eq := rfl
      storage_eq := rfl
      registered := ⟨_, rfl, hnames ▸ List.mem_cons_self,
        hnames ▸ List.mem_cons_of_mem _ List.mem_cons_self⟩
      segments := fun ids hids s' hs' => by
        cases hids
        exact List.mem_singleton.1 hs' ▸ hs
      reachable := ht }

/-- If a directory of the one index meets a directory of the other, the drop that clears the first
takes away what lies below both. -/
theorem not_dropSpares_of_meets (hne : A ≠ B) (hA : Text.isBlankText A = false) {s s' : SegmentId}
    (hs : s.IsName) (hs' : s'.IsName) (h : (indexPath table s A).Meets (indexPath table s' B)) :
    ¬DropSpares table A B := by
  intro hspares
  -- a tree with nothing but a directory below both: the drop has something to remove, and takes it
  obtain ⟨p, hp, hp'⟩ := Path.meets_iff.1 h
  have hneighbours := neighbours_manager hne hA table hs (.createDir p .empty)
  let m := Host.manager table A [s] (fun _ : Unit => {}) fun _ => .ok (.ofTwo table A B)
  let w : Host Unit := ⟨(Tree.empty.createDir p).2, ()⟩
  have hstorage : m.storage = Host.storage fun _ => {} := rfl
  have hthere : w.tree.contains p = true := Tree.contains_createDir_empty p
  have hparts : (m.indexDir s).parts ≠ [] :=
    Path.parts_join_ne_nil hneighbours.initialized.indexName_ne_empty
  have hdir : w.tree.contains (m.indexDir s) = true :=
    hneighbours.reachable.rooted.contains_of_isAtOrAbove hp hparts hthere
  have hafter := (hspares _ _ _ m w hneighbours s' hs').contains hp' hthere
  rw [(Manager.dropData_of_ok rfl).1, Manager.contains_dropSegments hstorage] at hafter
  refine hafter.2 ((Manager.taken_dropSegments_iff hstorage _ _ _).2 ?_)
  exact ⟨s, List.mem_singleton_self s, ⟨hdir, rfl, rfl⟩, hp⟩

/-- **On a table, the drop of one index spares another one exactly if their directories never
meet.** -/
theorem dropSpares_iff (hne : A ≠ B) (hA : Text.isBlankText A = false) (table : TableId) :
    DropSpares table A B ↔ ∀ s s' : SegmentId, s.IsName → s'.IsName →
      ¬(indexPath table s A).Meets (indexPath table s' B) := by
  constructor
  · intro h s s' hs hs' hmeets
    exact not_dropSpares_of_meets hne hA hs hs' hmeets h
  · intro h α refusals registry m w hneighbours s' hs'
    refine Manager.spares_of_not_meets hneighbours.storage_eq registry fun ids hids s hs => ?_
    rw [hneighbours.table_eq] at hids
    rw [Manager.indexDir, hneighbours.table_eq, hneighbours.indexName_eq]
    exact h s s' (hneighbours.segments ids hids s hs) hs'

/-! ## Names -/

/-- The names are both absolute or both relative, and the parts that the one adds do not begin with
those that the other adds. -/
def NamesApart (A B : String) : Prop :=
  Path.isAbsolute A = Path.isAbsolute B ∧
    ¬Path.added A <+: Path.added B ∧ ¬Path.added B <+: Path.added A

instance (A B : String) : Decidable (NamesApart A B) := inferInstanceAs (Decidable (_ ∧ _))

/-- Single names are apart if they are different, as parts of a path. -/
theorem namesApart_iff_ne {a b : String} (hA : (⟨A⟩ : Path).parts = [.name a])
    (hB : (⟨B⟩ : Path).parts = [.name b]) : NamesApart A B ↔ a ≠ b := by
  obtain ⟨hrelA, haddA⟩ := Path.added_of_parts_eq_name hA
  obtain ⟨hrelB, haddB⟩ := Path.added_of_parts_eq_name hB
  rw [NamesApart, hrelA, hrelB, haddA, haddB]
  simp [eq_comm]

/-- Of two names that are both absolute or both relative, the directory of `A` is at or above that
of `B` if the parts that `B` adds begin with those that `A` adds.  Relative names have to be in the
same segment besides; absolute ones have left it. -/
theorem isAtOrAbove_indexPath_iff (habs : Path.isAbsolute A = Path.isAbsolute B) {s s' : SegmentId}
    {n n' : String} (hs : (⟨s.text⟩ : Path).parts = [.name n])
    (hs' : (⟨s'.text⟩ : Path).parts = [.name n']) :
    (indexPath table s A).isAtOrAbove (indexPath table s' B) = true ↔
      (Path.isAbsolute A = false → n = n') ∧ Path.added A <+: Path.added B := by
  rw [Path.isAtOrAbove_iff, parts_indexPath hs, parts_indexPath hs', ← habs]
  cases Path.isAbsolute A with
  | true => simp [List.cons_prefix_cons]
  | false => simp [List.cons_prefix_cons, List.prefix_append_right_inj]

/-- An absolute name is the directory of its index in every segment, so there is a table that lies
below it altogether. -/
theorem exists_table_below (hA : Path.isAbsolute A = true) (hB : Path.isAbsolute B = false) :
    ∃ table : TableId, ∀ s s' : SegmentId, s.IsName → s'.IsName →
      (indexPath table s A).isAtOrAbove (indexPath table s' B) = true := by
  refine ⟨⟨"t", ⟨A⟩⟩, fun s s' ⟨n, hn⟩ ⟨n', hn'⟩ => ?_⟩
  rw [Path.isAtOrAbove_iff, parts_indexPath hn, parts_indexPath hn', if_pos hA, hB,
    Path.parts_of_isAbsolute hA]
  exact List.prefix_append _ _

/-- **The directories of two indexes never meet, on whatever table, exactly if the names are
apart.** -/
theorem forall_not_meets_iff : (∀ (table : TableId) (s s' : SegmentId), s.IsName → s'.IsName →
      ¬(indexPath table s A).Meets (indexPath table s' B)) ↔ NamesApart A B := by
  have hparts : (⟨"0"⟩ : Path).parts = [.name "0"] := by decide +kernel
  have hzero : SegmentId.IsName ⟨"0"⟩ := ⟨_, hparts⟩
  constructor
  · intro h
    have habs : Path.isAbsolute A = Path.isAbsolute B := by
      cases hA : Path.isAbsolute A <;> cases hB : Path.isAbsolute B
      case false.false => rfl
      case true.true => rfl
      case true.false =>
        obtain ⟨table, hbelow⟩ := exists_table_below hA hB
        exact absurd (Or.inl (hbelow _ _ hzero hzero)) (h table _ _ hzero hzero)
      case false.true =>
        obtain ⟨table, hbelow⟩ := exists_table_below hB hA
        exact absurd (Or.inr (hbelow _ _ hzero hzero)) (h table _ _ hzero hzero)
    have hmeets := h ⟨"t", ⟨"/t"⟩⟩ ⟨"0"⟩ ⟨"0"⟩ hzero hzero
    rw [Path.Meets, isAtOrAbove_indexPath_iff habs hparts hparts,
      isAtOrAbove_indexPath_iff habs.symm hparts hparts, not_or] at hmeets
    exact ⟨habs, fun hpre => hmeets.1 ⟨fun _ => rfl, hpre⟩,
      fun hpre => hmeets.2 ⟨fun _ => rfl, hpre⟩⟩
  · rintro ⟨habs, hAB, hBA⟩ table s s' ⟨n, hn⟩ ⟨n', hn'⟩ (hmeets | hmeets)
    · exact hAB ((isAtOrAbove_indexPath_iff habs hn hn').1 hmeets).2
    · exact hBA ((isAtOrAbove_indexPath_iff habs.symm hn' hn).1 hmeets).2

/-- **Which indexes a drop spares.**  The first of two registered indexes can be dropped on every
table without a loss for the second, in the tree or in any plan, exactly if the names are apart: if
both start with a slash or neither does, and the parts of neither begin with those of the other. -/
theorem forall_dropSpares_iff (hne : A ≠ B) (hA : Text.isBlankText A = false) :
    (∀ table, DropSpares table A B) ↔ NamesApart A B := by
  rw [← forall_not_meets_iff]
  exact forall_congr' fun table => dropSpares_iff hne hA table

/-- A common start of two names is no harm; a slash behind it is, and one in front. -/
theorem forall_dropSpares_iff_of_common_start :
    (∀ table, DropSpares table "idx" "idx2") ∧ ¬(∀ table, DropSpares table "idx" "idx/v2") ∧
      ¬∀ table, DropSpares table "idx" "/idx" := by
  refine ⟨?_, ?_, ?_⟩
  · exact (forall_dropSpares_iff (by decide) (by decide +kernel)).2 (by decide +kernel)
  · rw [forall_dropSpares_iff (by decide) (by decide +kernel)]
    decide +kernel
  · rw [forall_dropSpares_iff (by decide) (by decide +kernel)]
    decide +kernel

/-- Managers can be made for the indexes `.` and `idx` of one table, whose names are different and
not blank.  The directory of the first is the segment itself, and so nothing of the second is left
when the first is dropped. -/
theorem not_forall_dropSpares :
    let table : TableId := ⟨"orders", ⟨"/warehouse/orders"⟩⟩
    let registry : Unit → Except Error Registry := fun _ => .ok (.ofTwo table "." "idx")
    let m := Host.manager table "." [⟨"0"⟩] (fun _ => {}) registry
    let m' := Host.manager table "idx" [⟨"0"⟩] (fun _ => {}) registry
    let w : Host Unit := ⟨(Tree.empty.createDir ⟨"/warehouse/orders/0/idx/s1"⟩).2, ()⟩
    let filter := ShardFilter.ofList ["s1"]
    Neighbours table "." "idx" (fun _ => {}) registry m w ∧ m'.Initialized ∧
      (m'.listTasks ⟨"0"⟩ filter w).value =
        [⟨⟨"/warehouse/orders/0"⟩, ⟨"/warehouse/orders/0/idx/s1"⟩⟩] ∧
      (m'.listTasks ⟨"0"⟩ filter (m.dropData w).world).value = [] ∧
      (m.dropData w).world.tree.entries.map (fun e => e.path.text) =
        ["/", "/warehouse", "/warehouse/orders"] ∧
      ¬∀ A B : String, A ≠ B → Text.isBlankText A = false → Text.isBlankText B = false →
        ∀ table, DropSpares table A B := by
  intro table registry m m' w filter
  have hne : "." ≠ "idx" := by decide
  have hzero : SegmentId.IsName ⟨"0"⟩ := ⟨"0", by decide +kernel⟩
  have hneighbours : Neighbours table "." "idx" (fun _ => {}) registry m w :=
    neighbours_manager hne (by decide +kernel) table hzero (.createDir _ .empty)
  have hindexes : ∀ w, m'.registry w m'.table = .ok [.text ".", .text "idx"] := fun _ =>
    congrArg Except.ok (Registry.indexesOf_ofTwo hne table)
  have hfilter : filter.isEmpty = false := by decide +kernel
  have hbefore : (m'.listTasks ⟨"0"⟩ filter w).value =
      [⟨⟨"/warehouse/orders/0"⟩, ⟨"/warehouse/orders/0/idx/s1"⟩⟩] := by
    rw [listTasks_value hfilter (hindexes w)]
    decide +kernel
  have hafter : (m'.listTasks ⟨"0"⟩ filter (m.dropData w).world).value = [] := by
    rw [listTasks_value hfilter (hindexes _)]
    decide +kernel
  refine ⟨hneighbours, Host.initialized_manager (by decide +kernel), hbefore, hafter,
    by decide +kernel, fun hall => ?_⟩
  have hspares := hall "." "idx" hne (by decide +kernel) (by decide +kernel) table
  have hplanned := (hspares _ _ _ m w hneighbours ⟨"0"⟩ hzero).planned m' rfl rfl ⟨"0"⟩ filter
  rw [hbefore, hafter] at hplanned
  exact absurd hplanned (by decide +kernel)

end IndexShards
