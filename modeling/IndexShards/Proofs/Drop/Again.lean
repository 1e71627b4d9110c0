import IndexShards.Proofs.Drop.Planning

/-!
# Dropping again

A drop that failed for some segments is made again later, and one that did not may be made again by
mistake.  Either is harmless.  After the loop no segment of the list has a directory that is there
and could be removed: such a directory was there before as well, so it was taken.  The second time,
then, every segment finds the tree as the first time left it, and none is removed.

What a segment meets the second time follows from what it met the first time.  What was removed or
absent stays away, since nothing is created.  A failure comes again, unless the directory has gone
with the one of another segment.

## What is here

* `DropFate.Settles` — what a segment may meet after what it met before.
* `dropSegments_of_not_removable` — **a loop that can remove nothing changes nothing**.
* `dropSegments_again` — the loop, run on what it left.
* `dropData_again` — **a drop that is repeated changes nothing and removes nothing**, and reports as
  absent whatever was removed or absent before.
-/

set_option autoImplicit false

namespace IndexShards

/-- What a segment meets when a drop is repeated, after what it met the first time. -/
inductive DropFate.Settles : DropFate → DropFate → Prop
  | removed : Settles .removed .absent
  | absent : Settles .absent .absent
  /-- The directory is still there. -/
  | failed (e : Error) : Settles (.failed e) (.failed e)
  /-- The directory has gone with another one. -/
  | gone (e : Error) : Settles (.failed e) .absent

/-- What has not failed is absent the next time. -/
theorem DropFate.Settles.eq_absent {fate fate' : DropFate} (h : fate.Settles fate')
    (hfate : ∀ e, fate ≠ .failed e) : fate' = .absent := by
  cases h with
  | removed => rfl
  | absent => rfl
  | failed e => exact absurd rfl (hfate e)
  | gone => rfl

namespace Manager

variable {α : Type} {m : Manager (Host α)} {refusals : α → Refusals} {w : Host α}
  {ss : List SegmentId} {s : SegmentId} {fate : DropFate}

/-! ## The loop -/

theorem fateIn_eq_removed_iff : m.fateIn refusals w s = .removed ↔ m.Removable refusals w s := by
  rw [fateIn, fateOf_eq_removed_iff, Removable]
  exact and_left_comm

/-- **A loop that can remove nothing changes nothing**, and every segment finds the tree as it was
at the start. -/
theorem dropSegments_of_not_removable (hs : m.storage = Host.storage refusals)
    (h : ∀ s ∈ ss, ¬m.Removable refusals w s) :
    m.dropSegments ss w = (ss.map fun s => (s, m.fateIn refusals w s), w) := by
  induction ss with
  | nil => rfl
  | cons s ss ih =>
    obtain ⟨hfirst, hrest⟩ := List.forall_mem_cons.1 h
    rw [dropSegments, dropSegment_eq hs, if_neg (mt fateIn_eq_removed_iff.1 hfirst)]
    simp only [ih hrest, List.map_cons]

/-- Of the segments of the list, the loop leaves none whose directory could be removed. -/
theorem not_removable_dropSegments (hs : m.storage = Host.storage refusals) (h : s ∈ ss) :
    ¬m.Removable refusals (m.dropSegments ss w).2 s := by
  rintro ⟨hthere, hlook, hdelete⟩
  rw [rest_dropSegments hs] at hlook hdelete
  obtain ⟨hbefore, hnot⟩ := (contains_dropSegments hs ss w (m.indexDir s)).1 hthere
  refine hnot ((taken_dropSegments_iff hs ss w (m.indexDir s)).2 ?_)
  exact ⟨s, h, ⟨hbefore, hlook, hdelete⟩, Path.isAtOrAbove_refl _⟩

/-- The loop, run on what it left. -/
theorem dropSegments_again (hs : m.storage = Host.storage refusals) (ss : List SegmentId)
    (w : Host α) : m.dropSegments ss (m.dropSegments ss w).2 =
      (ss.map fun s => (s, m.fateIn refusals (m.dropSegments ss w).2 s),
        (m.dropSegments ss w).2) :=
  dropSegments_of_not_removable hs fun _ h => not_removable_dropSegments hs h

/-! ## One segment, before and after -/

/-- After the loop the same calls are refused as before it. -/
theorem fateIn_dropSegments (hs : m.storage = Host.storage refusals) :
    m.fateIn refusals (m.dropSegments ss w).2 s = fateOf (refusals w.rest)
      ((m.dropSegments ss w).2.tree.contains (m.indexDir s)) (m.indexDir s) := by
  rw [fateIn, rest_dropSegments hs]

/-- A directory that can be looked at and is missing after the loop is absent then. -/
theorem fateIn_dropSegments_eq_absent (hs : m.storage = Host.storage refusals)
    (hlook : (refusals w.rest).contains (m.indexDir s) = none)
    (hgone : w.tree.contains (m.indexDir s) = false ∨
      m.Taken (m.dropSegments ss w).1 (m.indexDir s)) :
    m.fateIn refusals (m.dropSegments ss w).2 s = .absent := by
  rw [fateIn_dropSegments hs, fateOf_eq_absent_iff]
  refine ⟨hlook, ?_⟩
  rw [← Bool.not_eq_true, contains_dropSegments hs]
  rintro ⟨hthere, hnot⟩
  rcases hgone with hmissing | htaken
  · rw [hmissing] at hthere
    cases hthere
  · exact hnot htaken

/-- **What a segment met settles what it meets next.** -/
theorem settles_fateIn (hs : m.storage = Host.storage refusals)
    (h : (s, fate) ∈ (m.dropSegments ss w).1) :
    fate.Settles (m.fateIn refusals (m.dropSegments ss w).2 s) := by
  obtain ⟨before, after, hsplit⟩ := List.append_of_mem h
  obtain ⟨hfailed, habsent, hremoved⟩ := fate_iff hs hsplit
  have hlater : ∀ p, m.Taken before p → m.Taken (m.dropSegments ss w).1 p := by
    rintro p ⟨x, hx, hfate, hp⟩
    exact ⟨x, hsplit ▸ List.mem_append_left _ hx, hfate, hp⟩
  cases fate with
  | removed =>
    obtain ⟨⟨-, hlook, -⟩, -⟩ := hremoved.1 rfl
    have htaken : m.Taken (m.dropSegments ss w).1 (m.indexDir s) :=
      ⟨_, h, rfl, Path.isAtOrAbove_refl _⟩
    rw [fateIn_dropSegments_eq_absent hs hlook (Or.inr htaken)]
    exact .removed
  | absent =>
    obtain ⟨hlook, hgone⟩ := habsent.1 rfl
    rw [fateIn_dropSegments_eq_absent hs hlook (hgone.imp_right (hlater _))]
    exact .absent
  | failed e =>
    rw [fateIn_dropSegments hs]
    rcases (hfailed e).1 rfl with hlook | ⟨hlook, -, hdelete⟩
    · rw [fateOf_eq_failed_iff.2 (Or.inl hlook)]
      exact .failed e
    · -- it could not be deleted, so it is there unless another directory took it along
      cases (m.dropSegments ss w).2.tree.contains (m.indexDir s) with
      | true =>
        rw [fateOf_eq_failed_iff.2 (Or.inr ⟨hlook, rfl, hdelete⟩)]
        exact .failed e
      | false =>
        rw [fateOf_eq_absent_iff.2 ⟨hlook, rfl⟩]
        exact .gone e

/-! ## The report -/

/-- If all segments are absent, the report lists them all. -/
theorem absent_ofFates {f : SegmentId → DropFate} (h : ∀ s ∈ ss, f s = .absent) :
    (DropReport.ofFates (ss.map fun s => (s, f s))).absent = ss := by
  induction ss with
  | nil => rfl
  | cons s ss ih =>
    obtain ⟨hfirst, hrest⟩ := List.forall_mem_cons.1 h
    rw [List.map_cons, hfirst]
    exact congrArg (s :: ·) (ih hrest)

/-- If no segment is removed, the report says so. -/
theorem removed_ofFates {f : SegmentId → DropFate} (h : ∀ s ∈ ss, f s ≠ .removed) :
    (DropReport.ofFates (ss.map fun s => (s, f s))).removed = [] := by
  refine List.eq_nil_iff_forall_not_mem.2 fun s hs => ?_
  obtain ⟨s', hs', hx⟩ := List.mem_map.1 (mem_removed_iff.1 hs)
  exact h s' hs' (congrArg Prod.snd hx)

/-- Without failures everything is absent the next time. -/
theorem fateIn_eq_absent_of_isClean (hs : m.storage = Host.storage refusals)
    (hclean : (DropReport.ofFates (m.dropSegments ss w).1).isClean = true) (h : s ∈ ss) :
    m.fateIn refusals (m.dropSegments ss w).2 s = .absent := by
  rw [DropReport.isClean, Bool.and_eq_true, List.isEmpty_iff] at hclean
  rw [← m.map_fst_dropSegments ss w] at h
  obtain ⟨⟨s, fate⟩, hx, rfl⟩ := List.mem_map.1 h
  refine (settles_fateIn hs hx).eq_absent ?_
  rintro e rfl
  have hfailed := mem_failed_iff.2 ⟨e, hx⟩
  rw [hclean.1] at hfailed
  cases hfailed

section Repeated

variable (ss : List SegmentId) (w : Host α)

/-- The second time nothing is removed. -/
theorem removed_dropSegments_again (hs : m.storage = Host.storage refusals) :
    (DropReport.ofFates (m.dropSegments ss (m.dropSegments ss w).2).1).removed = [] := by
  rw [dropSegments_again hs]
  refine removed_ofFates fun s h => ?_
  exact mt fateIn_eq_removed_iff.1 (not_removable_dropSegments hs h)

/-- After a clean drop everything is absent. -/
theorem absent_dropSegments_again (hs : m.storage = Host.storage refusals)
    (hclean : (DropReport.ofFates (m.dropSegments ss w).1).isClean = true) :
    (DropReport.ofFates (m.dropSegments ss (m.dropSegments ss w).2).1).absent = ss := by
  rw [dropSegments_again hs]
  exact absent_ofFates fun s h => fateIn_eq_absent_of_isClean hs hclean h

/-- Place by place, the first account settles the second. -/
theorem settles_dropSegments_again (hs : m.storage = Host.storage refusals) {i : Nat}
    (h : (m.dropSegments ss w).1[i]? = some (s, fate)) :
    ∃ fate', (m.dropSegments ss (m.dropSegments ss w).2).1[i]? = some (s, fate') ∧
      fate.Settles fate' := by
  have hplace : ss[i]? = some s := by
    rw [← m.map_fst_dropSegments ss w, List.getElem?_map, h, Option.map_some]
  refine ⟨_, ?_, settles_fateIn hs (List.mem_of_getElem? h)⟩
  rw [dropSegments_again hs, List.getElem?_map, hplace, Option.map_some]

end Repeated

/-- **A drop that is repeated changes nothing and removes nothing.**  If nothing changes in between,
the second drop leaves the tree as the first one left it.  Its account of the segments has the same
segments in the same places, and what was removed or absent in the first account is absent in the
second.  If the first drop was clean, the second one calls all valid segments absent, in order. -/
theorem dropData_again {valid : α → TableId → Except Error (List SegmentId)}
    (hs : m.storage = Host.storage refusals) (hstatus : m.status = fun w => valid w.rest)
    (w : Host α) :
    let first := m.dropData w
    let second := m.dropData first.world
    second.world = first.world ∧ second.value.removed = [] ∧
      (∀ segments, valid w.rest m.table = .ok segments →
        ∃ fates fates' : List (SegmentId × DropFate),
          first.value.Tells fates ∧ second.value.Tells fates' ∧
          fates.map Prod.fst = segments ∧ fates'.map Prod.fst = segments ∧
          ∀ (i : Nat) (s : SegmentId) (fate : DropFate), fates[i]? = some (s, fate) →
            ∃ fate', fates'[i]? = some (s, fate') ∧ fate.Settles fate') ∧
      (first.value.isClean = true → valid w.rest m.table = .ok second.value.absent) := by
  intro first second
  have hvalid : ∀ w, m.status w m.table = valid w.rest m.table := fun w => by rw [hstatus]
  cases hsegments : m.status w m.table with
  | error e =>
    obtain ⟨hworld, hvalue, -⟩ := dropData_of_error hsegments
    have hsame : second = first := congrArg m.dropData hworld
    have hreport : first.value = { statusError := some e.message } := hvalue
    rw [hsame, hreport, ← hvalid, hsegments]
    refine ⟨rfl, rfl, ?_, ?_⟩
    · rintro segments ⟨⟩
    · intro hclean
      cases hclean
  | ok segments =>
    obtain ⟨hworld, hvalue⟩ : first.world = _ ∧ first.value = _ := dropData_of_ok hsegments
    have hsegments' : m.status first.world m.table = .ok segments := by
      rw [← hsegments, hvalid, hvalid, hworld, rest_dropSegments hs]
    obtain ⟨hworld', hvalue'⟩ : second.world = _ ∧ second.value = _ := dropData_of_ok hsegments'
    rw [hworld] at hworld' hvalue'
    rw [hworld', hvalue', hworld, hvalue, ← hvalid, hsegments]
    refine ⟨?_, removed_dropSegments_again segments w hs, ?_, ?_⟩
    · rw [dropSegments_again hs]
    · rintro _ ⟨⟩
      exact ⟨_, _, tells_ofFates _, tells_ofFates _, m.map_fst_dropSegments segments w,
        m.map_fst_dropSegments segments _, fun i s fate h => settles_dropSegments_again _ w hs h⟩
    · intro hclean
      rw [absent_dropSegments_again segments w hs hclean]

/-- Two directories cannot be deleted, and one of them goes with the directory above it: it is
absent the second time, and the other one fails again.  Where nothing is refused, everything is
absent. -/
theorem dropData_again_of_refused_deletions :
    let tree := (((Tree.empty.createDir ⟨"/t/0/a/s1"⟩).2.createDir ⟨"/t/1/a"⟩).2.createDir
      ⟨"/t/2/a/x/a"⟩).2
    let w : Host Unit := ⟨tree, ()⟩
    let segments : List SegmentId := [⟨"2/a/x"⟩, ⟨"0"⟩, ⟨"2"⟩, ⟨"1"⟩, ⟨"0"⟩]
    let busy : Unit → Refusals := fun _ =>
      { delete := fun p =>
          if p = ⟨"/t/1/a"⟩ ∨ p = ⟨"/t/2/a/x/a"⟩ then some (.storage (.other "busy")) else none }
    let m := Host.manager ⟨"t", ⟨"/t"⟩⟩ "a" segments busy fun _ => .ok .empty
    let m' := Host.manager ⟨"t", ⟨"/t"⟩⟩ "a" segments (fun _ => {}) fun _ => .ok .empty
    (m.dropData w).value =
        { removed := [⟨"0"⟩, ⟨"2"⟩], absent := [⟨"0"⟩], failed := [⟨"2/a/x"⟩, ⟨"1"⟩] } ∧
      (m.dropData (m.dropData w).world).value =
        { absent := [⟨"2/a/x"⟩, ⟨"0"⟩, ⟨"2"⟩, ⟨"0"⟩], failed := [⟨"1"⟩] } ∧
      (m.dropData (m.dropData w).world).world = (m.dropData w).world ∧
      (m'.dropData (m'.dropData w).world).value.absent = segments := by
  intro tree w segments busy m m'
  let valid : Unit → TableId → Except Error (List SegmentId) := fun _ _ => .ok segments
  have hs : m.storage = Host.storage busy := rfl
  have hs' : m'.storage = Host.storage fun _ => {} := rfl
  have hstatus : m.status = fun w => valid w.rest := rfl
  have hstatus' : m'.status = fun w => valid w.rest := rfl
  refine ⟨by decide +kernel, by decide +kernel, (dropData_again hs hstatus w).1, ?_⟩
  have hclean : (m'.dropData w).value.isClean = true := by decide +kernel
  exact (Except.ok.inj ((dropData_again hs' hstatus' w).2.2.2 hclean)).symm

end Manager
end IndexShards
