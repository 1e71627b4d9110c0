import IndexShards.Proofs.Drop.Account
import IndexShards.Proofs.Initialize
import IndexShards.Proofs.Planning
import IndexShards.Proofs.Tree.Rooted

/-!
# Planning after a drop

A plan is made of listings, and a drop takes whole subtrees.  So a directory is listed after the
drop as before it, without the children that were taken; and if the directory was taken itself, all
its children were, and a missing directory shows none.  It makes no difference that a file in the
place of the directory could not be listed before: it had no shards either.

## What is here

* `tasksOf_dropSegments` — the tasks of one directory, after the loop and before it.
* `listTasks_dropSegments` — **planning after the loop is planning before it, without the tasks
  for shards that were taken**.
* `contains_eq_false_of_absent` — nothing is left below the directory of an absent segment, if the
  tree is rooted.
* `listTasks_dropData` — both of them, about the report of a drop.
-/

set_option autoImplicit false

namespace IndexShards
namespace Manager

variable {α : Type} {m m' : Manager (Host α)} {refusals : α → Refusals} {w : Host α}
  {segment : SegmentId} {filter : ShardFilter}

/-! ## One directory -/

/-- A directory that was not taken keeps the directories in it that were not taken, and a directory
that was taken has none. -/
theorem directoriesIn_dropSegments (hs : m.storage = Host.storage refusals) (ss : List SegmentId)
    (w : Host α) (d : Path) : (m.dropSegments ss w).2.tree.directoriesIn d =
      (w.tree.directoriesIn d).filter fun e =>
        decide ¬m.Taken (m.dropSegments ss w).1 e.path := by
  rw [Tree.directoriesIn, Tree.directoriesIn, kind?_dropSegments hs, entries_dropSegments hs]
  by_cases htaken : m.Taken (m.dropSegments ss w).1 d
  · rw [if_pos htaken, if_neg (by simp)]
    split
    · rw [eq_comm, List.filter_eq_nil_iff]
      intro e he
      rw [List.mem_filter, Bool.and_eq_true, decide_eq_true_eq] at he
      simpa using htaken.of_isAtOrAbove he.2.1.isAtOrAbove
    · rfl
  · rw [if_neg htaken]
    split
    · rw [List.filter_filter, List.filter_filter]
      exact List.filter_congr fun e _ => Bool.and_comm _ _
    · rfl

/-- The tasks of one directory after the loop are those before it whose shards were not taken. -/
theorem tasksOf_dropSegments (hs : m.storage = Host.storage refusals) (ss : List SegmentId)
    (w : Host α) (table : TableId) (segment : SegmentId) (filter : ShardFilter) (d : Path) :
    tasksOf table segment filter
        ((Host.storage refusals).listDirectories (m.dropSegments ss w).2 d) =
      (tasksOf table segment filter ((Host.storage refusals).listDirectories w d)).filter fun t =>
        decide ¬m.Taken (m.dropSegments ss w).1 t.shardPath := by
  rw [tasksOf_listDirectories, tasksOf_listDirectories, rest_dropSegments hs,
    directoriesIn_dropSegments hs]
  split
  · rw [List.filter_map, List.filter_filter, List.filter_filter]
    refine congrArg _ (List.filter_congr fun e _ => ?_)
    exact Bool.and_comm _ _
  · rfl

/-! ## All of them -/

/-- **Planning after the loop is planning before it, without the tasks for shards that were
taken**, in the same order. -/
theorem listTasks_dropSegments {indexes : α → TableId → Except Error (List Registration)}
    (hs : m.storage = Host.storage refusals) (hs' : m'.storage = Host.storage refusals)
    (hr' : m'.registry = fun w => indexes w.rest) (ss : List SegmentId) (w : Host α)
    (segment : SegmentId) (filter : ShardFilter) :
    (m'.listTasks segment filter (m.dropSegments ss w).2).value =
      (m'.listTasks segment filter w).value.filter fun t =>
        decide ¬m.Taken (m.dropSegments ss w).1 t.shardPath := by
  cases hf : filter.isEmpty with
  | true => simp [listTasks, hf]
  | false =>
    have hafter : m'.registry (m.dropSegments ss w).2 m'.table = indexes w.rest m'.table := by
      simp only [hr', rest_dropSegments hs]
    have hbefore : m'.registry w m'.table = indexes w.rest m'.table := by rw [hr']
    cases hi : indexes w.rest m'.table with
    | error e =>
      rw [(listTasks_of_registry_error hf (hafter.trans hi)).1,
        (listTasks_of_registry_error hf (hbefore.trans hi)).1]
      rfl
    | ok is =>
      rw [listTasks_value hf (hafter.trans hi), listTasks_value hf (hbefore.trans hi),
        List.filter_flatMap, hs']
      simp only [tasksOf_dropSegments hs]

/-- The shard of a task is an entry of the tree. -/
theorem contains_of_mem_listTasks {indexes : α → TableId → Except Error (List Registration)}
    (hs' : m'.storage = Host.storage refusals) (hr' : m'.registry = fun w => indexes w.rest)
    {t : ProbeTask} (ht : t ∈ (m'.listTasks segment filter w).value) :
    w.tree.contains t.shardPath = true := by
  have hi : m'.registry w m'.table = indexes w.rest m'.table := by rw [hr']
  cases hf : filter.isEmpty with
  | true => simp [listTasks, hf] at ht
  | false =>
    cases his : indexes w.rest m'.table with
    | error e =>
      rw [(listTasks_of_registry_error hf (hi.trans his)).1] at ht
      cases ht
    | ok is =>
      have hmem := (mem_listTasks hs' hf (hi.trans his) ht).2
      exact Tree.contains_of_mem (e := ⟨t.shardPath, true⟩) hmem

/-! ## The report of a drop -/

/-- What is taken is what lies at or below the directory of a segment reported as removed. -/
theorem taken_iff_exists_mem_removed {fates : List (SegmentId × DropFate)} {p : Path} :
    m.Taken fates p ↔ ∃ s ∈ (DropReport.ofFates fates).removed,
      (m.indexDir s).isAtOrAbove p = true := by
  constructor
  · rintro ⟨⟨s, fate⟩, hx, rfl, hp⟩
    exact ⟨s, mem_removed_iff.2 hx, hp⟩
  · rintro ⟨s, hs, hp⟩
    exact ⟨_, mem_removed_iff.1 hs, rfl, hp⟩

/-- Below the directory of an absent segment there is nothing after the loop: the tree is rooted,
so there was nothing at the turn of the segment, and nothing is created afterwards. -/
theorem contains_eq_false_of_absent (hs : m.storage = Host.storage refusals)
    (hm : m.Initialized) {ss : List SegmentId} (hw : w.tree.Rooted) {s : SegmentId}
    (h : (s, .absent) ∈ (m.dropSegments ss w).1) {p : Path}
    (hp : (m.indexDir s).isAtOrAbove p = true) :
    (m.dropSegments ss w).2.tree.contains p = false := by
  rw [← Bool.not_eq_true, contains_dropSegments hs]
  rintro ⟨hthere, hnot⟩
  obtain ⟨before, after, hsplit⟩ := List.append_of_mem h
  obtain ⟨-, hmissing⟩ := ((fate_iff hs hsplit).2.1).1 rfl
  rcases hmissing with hmissing | htaken
  · have hne : (m.indexDir s).parts ≠ [] := Path.parts_join_ne_nil hm.indexName_ne_empty
    rw [hw.contains_eq_false hmissing hne hp] at hthere
    cases hthere
  · obtain ⟨x, hx, hfate, hd⟩ := htaken
    refine hnot ⟨x, ?_, hfate, Path.isAtOrAbove_trans hd hp⟩
    rw [hsplit]
    exact List.mem_append_left _ hx

/-- **Dropping and planning commute.**  What any manager over the same tree and registry plans
after a drop is what it planned before, in the same order, without the tasks for shards at or below
the directories that the report calls removed; and then no task is left for a shard at or below the
directory of a segment that the report calls removed or absent. -/
theorem listTasks_dropData {indexes : α → TableId → Except Error (List Registration)}
    (hm : m.Initialized) (hs : m.storage = Host.storage refusals)
    (hs' : m'.storage = Host.storage refusals) (hr' : m'.registry = fun w => indexes w.rest)
    (hw : w.tree.Reachable) (segment : SegmentId) (filter : ShardFilter) :
    (m'.listTasks segment filter (m.dropData w).world).value =
      (m'.listTasks segment filter w).value.filter (fun t => decide
        ¬∃ s ∈ (m.dropData w).value.removed, (m.indexDir s).isAtOrAbove t.shardPath = true) ∧
    ∀ t ∈ (m'.listTasks segment filter (m.dropData w).world).value,
      ∀ s ∈ (m.dropData w).value.removed ++ (m.dropData w).value.absent,
        (m.indexDir s).isAtOrAbove t.shardPath = false := by
  cases hstatus : m.status w m.table with
  | error e =>
    obtain ⟨hworld, hvalue, -⟩ := dropData_of_error hstatus
    rw [hworld, hvalue]
    exact ⟨by simp, by simp⟩
  | ok segments =>
    obtain ⟨hworld, hvalue⟩ := dropData_of_ok hstatus
    rw [hworld, hvalue]
    simp only [← taken_iff_exists_mem_removed]
    refine ⟨listTasks_dropSegments hs hs' hr' segments w segment filter, fun t ht s hmem => ?_⟩
    have hthere := contains_of_mem_listTasks hs' hr' ht
    rw [← Bool.not_eq_true]
    intro hp
    rcases List.mem_append.1 hmem with hremoved | habsent
    · refine ((contains_dropSegments hs segments w t.shardPath).1 hthere).2 ?_
      exact taken_iff_exists_mem_removed.2 ⟨s, hremoved, hp⟩
    · rw [contains_eq_false_of_absent hs hm hw.rooted (mem_absent_iff.1 habsent) hp] at hthere
      cases hthere

/-- The manager of the second index plans the shards of both; when the first index is dropped, its
own is left. -/
theorem listTasks_dropData_of_two_indexes :
    let tree := ((Tree.empty.createDir ⟨"/t/0/a/s1"⟩).2.createDir ⟨"/t/0/b/s2"⟩).2
    let w : Host Unit := ⟨tree, ()⟩
    let table : TableId := ⟨"t", ⟨"/t"⟩⟩
    let registry : Registry :=
      ⟨Std.ExtTreeMap.ofList [(table, [.text "a", .text "b"])] TableId.cmp⟩
    let m := Host.manager table "a" [⟨"0"⟩, ⟨"1"⟩] (fun _ => {}) fun _ => .ok registry
    let m' := Host.manager table "b" [] (fun _ => {}) fun _ => .ok registry
    let filter := ShardFilter.ofList ["s1", "s2"]
    (m'.listTasks ⟨"0"⟩ filter w).value.map (fun t => t.shardPath.text) =
        ["/t/0/a/s1", "/t/0/b/s2"] ∧
      (m'.listTasks ⟨"0"⟩ filter (m.dropData w).world).value.map (fun t => t.shardPath.text) =
        ["/t/0/b/s2"] := by
  intro tree w table registry m m' filter
  have hm : m.Initialized := Host.initialized_manager (by decide +kernel)
  have hs : m.storage = Host.storage fun _ => {} := rfl
  have hs' : m'.storage = Host.storage fun _ => {} := rfl
  let indexes : Unit → TableId → Except Error (List Registration) := fun _ t =>
    .ok (registry.indexesOf t)
  have hr' : m'.registry = fun w => indexes w.rest := rfl
  have hw : w.tree.Reachable := .createDir _ (.createDir _ .empty)
  refine ⟨by decide +kernel, ?_⟩
  rw [(listTasks_dropData hm hs hs' hr' hw ⟨"0"⟩ filter).1]
  decide +kernel

end Manager
end IndexShards
