import IndexShards.Proofs.Host
import Mathlib.Data.List.Basic

/-!
# What planning finds

Planning goes through the text indexes of a table, lists the directory of each in a segment, and
makes a task of every directory below it that the filter names.  What it answers is therefore a sum
over the registrations, and each summand depends on one directory alone.

## What is here

* `tasksOf`, `listTasks_value` — the tasks of one index, and all of them as the sum.
* `skipWarning`, `listTasks_log` — the warning about an index that cannot be listed, and the log.
* `tasksOf_listDirectories` — the tasks of one directory, over the tree of a host.
* `Offers` — a registration offers a shard: it is a text index whose directory can be listed, and
  the shard is a directory right below it that the filter names.
* `listTasks_exact` — **every shard is planned as often as it is offered**, an index that cannot
  be listed is as good as not registered and gives one warning, and indexes of other kinds are not
  even looked at.
-/

set_option autoImplicit false

namespace IndexShards

/-! ## The sum over the registrations -/

section Sum

variable {ω : Type}

/-- The tasks that a listing of the directory of an index gives. -/
def tasksOf (table : TableId) (segment : SegmentId) (filter : ShardFilter) :
    Except Error (List Entry) → List ProbeTask
  | .ok entries =>
    (entries.filter fun e => filter.contains e.name).map fun e =>
      ⟨segmentPath table segment, e.path⟩
  | .error _ => []

/-- The warning about an index whose directory cannot be listed. -/
def skipWarning (table : TableId) (segment : SegmentId) (index : Registration) (e : Error) :
    LogRecord :=
  ⟨.warn, "skipping shards of index " ++ index.indexName ++ " in segment " ++ segment.text ++
    ": failed to list " ++ (indexPath table segment index.indexName).text ++ ": " ++ e.message⟩

/-- What is noted of a listing of the directory of an index: nothing, unless it fails. -/
def skipNotes (table : TableId) (segment : SegmentId) (index : Registration) :
    Except Error (List Entry) → List LogRecord
  | .ok _ => []
  | .error e => [skipWarning table segment index e]

theorem probeTasks_locateIndex (table : TableId) (fs : FileSystem ω) (segment : SegmentId) (w : ω)
    (filter : ShardFilter) (index : Registration) :
    probeTasks table segment (locateIndex table fs segment w index).value filter =
      tasksOf table segment filter
        (fs.listDirectories w (indexPath table segment index.indexName)) := by
  rw [probeTasks, locateIndex]
  cases fs.listDirectories w (indexPath table segment index.indexName) with
  | error e => rfl
  | ok entries =>
    simp only [tasksOf, List.filter_map, List.map_map]
    rfl

theorem log_locateIndex (table : TableId) (fs : FileSystem ω) (segment : SegmentId) (w : ω)
    (index : Registration) :
    (locateIndex table fs segment w index).log =
      skipNotes table segment index
        (fs.listDirectories w (indexPath table segment index.indexName)) := by
  rw [locateIndex]
  cases fs.listDirectories w (indexPath table segment index.indexName) <;> rfl

theorem probeTasks_flatMap {β : Type} (table : TableId) (segment : SegmentId)
    (filter : ShardFilter) (l : List β) (f : β → List Shard) :
    probeTasks table segment (l.flatMap f) filter =
      l.flatMap fun b => probeTasks table segment (f b) filter := by
  rw [probeTasks, List.filter_flatMap, List.map_flatMap]
  rfl

variable {m : Manager ω} {segment : SegmentId} {filter : ShardFilter} {w : ω}
  {indexes : List Registration}

/-- **The plan is the sum of what the text indexes give**, in the order of the registry. -/
theorem listTasks_value (hf : filter.isEmpty = false) (hi : m.registry w m.table = .ok indexes) :
    (m.listTasks segment filter w).value =
      (indexes.filter Registration.isText).flatMap fun i => tasksOf m.table segment filter
        (m.storage.listDirectories w (indexPath m.table segment i.indexName)) := by
  simp only [Manager.listTasks, hf, Bool.false_eq_true, ↓reduceIte, locateShards, hi,
    List.flatMap_map, probeTasks_flatMap, probeTasks_locateIndex]

/-- The log has a warning for every text index that cannot be listed, and then a summary. -/
theorem listTasks_log (hf : filter.isEmpty = false) (hi : m.registry w m.table = .ok indexes) :
    ∃ summary : LogRecord, summary.level = .debug ∧ (m.listTasks segment filter w).log =
      ((indexes.filter Registration.isText).flatMap fun i => skipNotes m.table segment i
        (m.storage.listDirectories w (indexPath m.table segment i.indexName))) ++ [summary] := by
  simp only [Manager.listTasks, hf, Bool.false_eq_true, ↓reduceIte, locateShards, hi,
    List.flatMap_map, log_locateIndex]
  exact ⟨_, rfl, rfl⟩

/-- Without a registry there is no plan, and no directory is blamed for it. -/
theorem listTasks_of_registry_error {e : Error} (hf : filter.isEmpty = false)
    (he : m.registry w m.table = .error e) :
    (m.listTasks segment filter w).value = [] ∧
      ∀ record ∈ (m.listTasks segment filter w).log, record.level ≠ .warn := by
  simp [Manager.listTasks, hf, locateShards, he, probeTasks]

/-- Only the directories of text indexes are listed: a file system that agrees on them gives the
same plan and the same log. -/
theorem listTasks_congr (fs : FileSystem ω) (hi : m.registry w m.table = .ok indexes)
    (h : ∀ i ∈ indexes, i.provider = "text" →
      fs.list w (indexPath m.table segment i.indexName) =
        m.storage.list w (indexPath m.table segment i.indexName)) :
    Manager.listTasks { m with storage := fs } segment filter w = m.listTasks segment filter w := by
  have hlocated : locateShards m.table fs m.registry segment w =
      locateShards m.table m.storage m.registry segment w := by
    have hmap : (indexes.filter Registration.isText).map (locateIndex m.table fs segment w) =
        (indexes.filter Registration.isText).map (locateIndex m.table m.storage segment w) := by
      refine List.map_congr_left fun i hi => ?_
      obtain ⟨hmem, htext⟩ := List.mem_filter.1 hi
      rw [locateIndex, locateIndex, FileSystem.listDirectories, FileSystem.listDirectories,
        h i hmem (Registration.isText_iff.1 htext)]
    simp only [locateShards, hi, hmap]
  rw [Manager.listTasks, Manager.listTasks, hlocated]

end Sum

/-! ## Shards on offer -/

section Offers

variable {α : Type} {refusals : α → Refusals} {w : Host α} {table : TableId}
  {segment : SegmentId} {filter : ShardFilter}

/-- A listing of the directory `d` finds the shard `p`: `d` is a directory that can be listed, and
`p` is a directory right below it with a name from the filter. -/
def Finds (refusals : α → Refusals) (w : Host α) (filter : ShardFilter) (d p : Path) : Prop :=
  w.tree.kind? d = some true ∧ (refusals w.rest).list d = none ∧
    w.tree.kind? p = some true ∧ p.IsChildOf d ∧ p.fileName?.getD "" ∈ filter.names

instance (d p : Path) : Decidable (Finds refusals w filter d p) :=
  inferInstanceAs (Decidable (_ ∧ _))

/-- The registration offers the shard `p`: it is the one of a text index, in whose directory the
shard is found. -/
def Offers (refusals : α → Refusals) (w : Host α) (table : TableId) (segment : SegmentId)
    (filter : ShardFilter) (p : Path) (i : Registration) : Prop :=
  i.provider = "text" ∧ Finds refusals w filter (indexPath table segment i.indexName) p

instance (p : Path) : DecidablePred (Offers refusals w table segment filter p) := fun _ =>
  inferInstanceAs (Decidable (_ ∧ _))

/-- The task is the one for the shard `p` of the segment, however the paths are spelled. -/
def IsTaskFor (table : TableId) (segment : SegmentId) (p : Path) (t : ProbeTask) : Prop :=
  t.segmentPath ≈ segmentPath table segment ∧ t.shardPath ≈ p

instance (p : Path) : DecidablePred (IsTaskFor table segment p) := fun _ =>
  inferInstanceAs (Decidable (_ ∧ _))

theorem entry_name_congr {d e : Entry} (h : d.path ≈ e.path) : d.name = e.name := by
  rw [Entry.name, Entry.name, Path.fileName?, Path.fileName?, Path.equiv_iff.1 h]

/-- The tasks of a directory are those for the directories in it that the filter names; if a file
is in its place there are none, as if nothing were there. -/
theorem tasksOf_listDirectories (refusals : α → Refusals) (w : Host α) (table : TableId)
    (segment : SegmentId) (filter : ShardFilter) (d : Path) :
    tasksOf table segment filter ((Host.storage refusals).listDirectories w d) =
      if (refusals w.rest).list d = none then
        ((w.tree.directoriesIn d).filter fun e => filter.contains e.name).map fun e =>
          ⟨segmentPath table segment, e.path⟩
      else [] := by
  rw [Host.listDirectories_storage, Host.listingError?]
  cases (refusals w.rest).list d with
  | some e => rfl
  | none =>
    by_cases hfile : w.tree.kind? d = some false
    · simp [hfile, Tree.directoriesIn, tasksOf]
    · simp [hfile, tasksOf]

/-- The directory at a place is among the ones in `d` if it is there at all. -/
theorem any_find?_iff (t : Tree) (p d : Path) (filter : ShardFilter) :
    (t.find? p).any (fun e => filter.contains e.name && (decide (e.path.IsChildOf d) && e.isDir))
        = true ↔
      t.kind? p = some true ∧ p.IsChildOf d ∧ p.fileName?.getD "" ∈ filter.names := by
  rw [Option.any_eq_true, Tree.kind?_eq_some_iff]
  simp only [Tree.find?_eq_some_iff, Bool.and_eq_true, decide_eq_true_eq,
    ShardFilter.contains_iff]
  constructor
  · rintro ⟨e, ⟨he, hep⟩, hname, hchild, hdir⟩
    have hn : e.name = p.fileName?.getD "" := entry_name_congr (e := ⟨p, true⟩) hep
    exact ⟨⟨e, he, hep, hdir⟩, (Path.isChildOf_congr hep (Path.equiv_refl d)).1 hchild, hn ▸ hname⟩
  · rintro ⟨⟨e, he, hep, hdir⟩, hchild, hname⟩
    have hn : e.name = p.fileName?.getD "" := entry_name_congr (e := ⟨p, true⟩) hep
    exact ⟨e, ⟨he, hep⟩, hn ▸ hname, (Path.isChildOf_congr hep (Path.equiv_refl d)).2 hchild, hdir⟩

/-- A directory gives the task for a shard once if it is found there, and else never. -/
theorem countP_tasksOf (d p : Path) :
    (tasksOf table segment filter ((Host.storage refusals).listDirectories w d)).countP
        (fun t => decide (IsTaskFor table segment p t)) =
      if Finds refusals w filter d p then 1 else 0 := by
  have hfor : ∀ e : Entry, decide (IsTaskFor table segment p
      ⟨segmentPath table segment, e.path⟩) = decide (e.path ≈ p) := fun e =>
    decide_eq_decide.2 ⟨fun h => h.2, fun h => ⟨Path.equiv_refl _, h⟩⟩
  have hcount := w.tree.countP_equiv p fun e =>
    filter.contains e.name && (decide (e.path.IsChildOf d) && e.isDir)
  simp only [any_find?_iff] at hcount
  rw [tasksOf_listDirectories, Tree.directoriesIn]
  by_cases hlist : (refusals w.rest).list d = none ∧ w.tree.kind? d = some true
  · simp only [hlist, if_true, List.countP_map, List.countP_filter, Function.comp_def, hfor,
      Bool.and_assoc]
    rw [hcount]
    by_cases hfound : Finds refusals w filter d p
    · rw [if_pos hfound, if_pos hfound.2.2]
    · rw [if_neg hfound, if_neg fun h => hfound ⟨hlist.2, hlist.1, h⟩]
  · have hnone : ¬Finds refusals w filter d p := fun h => hlist ⟨h.2.1, h.1⟩
    rw [if_neg hnone]
    by_cases hr : (refusals w.rest).list d = none
    · rw [if_pos hr, if_neg fun hd => hlist ⟨hr, hd⟩]
      rfl
    · rw [if_neg hr]
      rfl

/-- If every summand has one or none of what is counted, the summands that have it are counted. -/
theorem countP_flatMap_eq_countP {β γ : Type} {P : γ → Bool} {f : β → List γ} (Q : β → Prop)
    [DecidablePred Q] (h : ∀ b, (f b).countP P = if Q b then 1 else 0) (l : List β) :
    (l.flatMap f).countP P = l.countP fun b => decide (Q b) := by
  induction l with
  | nil => rfl
  | cons b l ih =>
    rw [List.flatMap_cons, List.countP_append, List.countP_cons, ih, h]
    by_cases hb : Q b
    · rw [if_pos hb, if_pos (decide_eq_true hb)]
      omega
    · rw [if_neg hb, if_neg (by simpa using hb)]
      omega

variable {m : Manager (Host α)} {indexes : List Registration}

/-- **Every shard is planned as often as it is offered.** -/
theorem countP_listTasks (hs : m.storage = Host.storage refusals) (hf : filter.isEmpty = false)
    (hi : m.registry w m.table = .ok indexes) (p : Path) :
    (m.listTasks segment filter w).value.countP (fun t => decide (IsTaskFor m.table segment p t)) =
      indexes.countP fun i => decide (Offers refusals w m.table segment filter p i) := by
  rw [listTasks_value hf hi, hs, countP_flatMap_eq_countP _ fun i => countP_tasksOf _ p,
    List.countP_filter]
  refine List.countP_congr fun i _ => ?_
  rw [Bool.and_eq_true, decide_eq_true_eq, decide_eq_true_eq, Offers, and_comm,
    Registration.isText_iff]

/-- Every task is for the segment, and for a directory as the tree spells it. -/
theorem mem_listTasks (hs : m.storage = Host.storage refusals) (hf : filter.isEmpty = false)
    (hi : m.registry w m.table = .ok indexes) {t : ProbeTask}
    (ht : t ∈ (m.listTasks segment filter w).value) :
    t.segmentPath = segmentPath m.table segment ∧ ⟨t.shardPath, true⟩ ∈ w.tree.entries := by
  rw [listTasks_value hf hi, hs, List.mem_flatMap] at ht
  obtain ⟨i, -, ht⟩ := ht
  rw [tasksOf_listDirectories] at ht
  split at ht
  · obtain ⟨e, he, rfl⟩ := List.mem_map.1 ht
    have hin := (List.mem_filter.1 he).1
    rw [Tree.directoriesIn] at hin
    split at hin
    · obtain ⟨hmem, htest⟩ := List.mem_filter.1 hin
      rw [Bool.and_eq_true] at htest
      exact ⟨rfl, by rw [← htest.2]; exact hmem⟩
    · cases hin
  · cases ht

theorem filter_isText (l : List Registration) :
    l.filter Registration.isText = l.filter fun i => decide (i.provider = "text") :=
  List.filter_congr fun _ _ =>
    Bool.eq_iff_iff.2 (Registration.isText_iff.trans decide_eq_true_iff.symm)

/-- The warnings are those about the text indexes that cannot be listed, one for each. -/
theorem warnings_listTasks (hs : m.storage = Host.storage refusals) (hf : filter.isEmpty = false)
    (hi : m.registry w m.table = .ok indexes) :
    (m.listTasks segment filter w).log.filter (fun x => decide (x.level = .warn)) =
      (indexes.filter fun i => decide (i.provider = "text")).filterMap fun i =>
        (w.listingError? refusals (indexPath m.table segment i.indexName)).map
          (skipWarning m.table segment i) := by
  obtain ⟨summary, hlevel, hlog⟩ : ∃ summary : LogRecord, summary.level = .debug ∧
      (m.listTasks segment filter w).log = _ ++ [summary] := listTasks_log hf hi
  have hsummary : ¬decide (summary.level = .warn) = true := by simp [hlevel]
  rw [hlog, ← filter_isText, List.filter_append, List.filter_cons, if_neg hsummary, List.filter_nil,
    List.append_nil, List.filter_flatMap, List.filterMap_eq_flatMap_toList, hs]
  congr 1
  funext i
  rw [Host.listDirectories_storage]
  cases w.listingError? refusals (indexPath m.table segment i.indexName) <;> rfl

/-- An index that cannot be listed, or that is not a text index, is as good as not registered. -/
theorem listTasks_of_not_listed (hs : m.storage = Host.storage refusals)
    (hf : filter.isEmpty = false) {before after : List Registration} {i : Registration}
    (hi : m.registry w m.table = .ok (before ++ i :: after))
    (h : i.provider = "text" →
      w.listingError? refusals (indexPath m.table segment i.indexName) ≠ none) :
    (m.listTasks segment filter w).value =
      (Manager.listTasks { m with registry := fun _ _ => .ok (before ++ after) }
        segment filter w).value := by
  rw [listTasks_value hf hi,
    listTasks_value (m := { m with registry := fun _ _ => .ok (before ++ after) }) hf rfl,
    List.filter_append, List.filter_append, List.flatMap_append, List.flatMap_append,
    List.filter_cons]
  split
  · next ht =>
    obtain ⟨e, he⟩ := Option.ne_none_iff_exists'.1 (h (Registration.isText_iff.1 ht))
    rw [List.flatMap_cons, hs, Host.listDirectories_storage, he]
    rfl
  · rfl

/-- **The plan is exact.**  Without a registry it is empty.  Otherwise every shard is planned as
often as it is offered, each time in the spelling of the tree; an index that cannot be listed
changes nothing for the others and gives one warning; and indexes of other kinds are never listed,
since the plan and the log are the same over every file system that agrees on the directories of
the text indexes. -/
theorem listTasks_exact {registry : α → Except Error Registry}
    (hs : m.storage = Host.storage refusals) (hr : m.registry = Host.indexes registry)
    (segment : SegmentId) (hf : filter.isEmpty = false) (w : Host α) :
    (∀ e, registry w.rest = .error e → (m.listTasks segment filter w).value = []) ∧
    ∀ r, registry w.rest = .ok r →
      (∀ p, (m.listTasks segment filter w).value.countP
          (fun t => decide (IsTaskFor m.table segment p t)) =
        (r.indexesOf m.table).countP fun i =>
          decide (Offers refusals w m.table segment filter p i)) ∧
      (∀ t ∈ (m.listTasks segment filter w).value,
        t.segmentPath = segmentPath m.table segment ∧ ⟨t.shardPath, true⟩ ∈ w.tree.entries) ∧
      (∀ before i after, r.indexesOf m.table = before ++ i :: after →
        (i.provider = "text" →
          w.listingError? refusals (indexPath m.table segment i.indexName) ≠ none) →
        (m.listTasks segment filter w).value =
          (Manager.listTasks { m with registry := fun _ _ => .ok (before ++ after) }
            segment filter w).value) ∧
      (m.listTasks segment filter w).log.filter (fun x => decide (x.level = .warn)) =
        ((r.indexesOf m.table).filter fun i => decide (i.provider = "text")).filterMap (fun i =>
          (w.listingError? refusals (indexPath m.table segment i.indexName)).map
            (skipWarning m.table segment i)) ∧
      ∀ fs : FileSystem (Host α), (∀ i ∈ r.indexesOf m.table, i.provider = "text" →
          fs.list w (indexPath m.table segment i.indexName) =
            m.storage.list w (indexPath m.table segment i.indexName)) →
        Manager.listTasks { m with storage := fs } segment filter w =
          m.listTasks segment filter w := by
  refine ⟨fun e he => ?_, fun r hreg => ?_⟩
  · have herr : m.registry w m.table = .error e := by rw [hr, Host.indexes, he]; rfl
    exact (listTasks_of_registry_error hf herr).1
  · have hi : m.registry w m.table = .ok (r.indexesOf m.table) := by
      rw [hr, Host.indexes, hreg]; rfl
    refine ⟨countP_listTasks hs hf hi, fun t ht => mem_listTasks hs hf hi ht, ?_,
      warnings_listTasks hs hf hi, fun fs h => listTasks_congr fs hi h⟩
    intro before i after hsplit hlist
    exact listTasks_of_not_listed hs hf (hsplit ▸ hi) hlist

/-- Two text indexes and one of another kind: of the directory of the first index the shard that
the filter names is planned, once, and the second index, in whose place a file stands, is warned
about. -/
theorem listTasks_exact_of_two_indexes :
    let tree := ((Tree.empty.createDir ⟨"/t/0/a/s1"⟩).2.createDir ⟨"/t/0/a/s2"⟩).2
    let w : Host Unit := ⟨(tree.createFile ⟨"/t/0/b"⟩).2, ()⟩
    let table : TableId := ⟨"t", ⟨"/t"⟩⟩
    let registry : Registry := ⟨Std.ExtTreeMap.ofList
      [(table, [.text "a", ⟨"c", "bloom"⟩, .text "b"])] TableId.cmp⟩
    let m := Host.manager table "a" [] (fun _ => {}) fun _ => .ok registry
    let plan := m.listTasks ⟨"0"⟩ (.ofList ["s1"]) w
    plan.value.countP (fun t => decide (IsTaskFor table ⟨"0"⟩ ⟨"/t//0/a/s1/"⟩ t)) = 1 ∧
      (plan.log.filter fun x => decide (x.level = .warn)).length = 1 := by
  intro tree w table registry m plan
  have hstorage : m.storage = Host.storage fun _ => {} := rfl
  have hregistry : m.registry = Host.indexes fun _ => .ok registry := rfl
  have hfilter : (ShardFilter.ofList ["s1"]).isEmpty = false := by decide +kernel
  have hexact := (listTasks_exact hstorage hregistry ⟨"0"⟩ hfilter w).2 registry rfl
  refine ⟨(hexact.1 _).trans (by decide +kernel), ?_⟩
  rw [hexact.2.2.2.1]
  decide +kernel

end Offers

end IndexShards
