import IndexShards.Manager.Drop
import IndexShards.Proofs.Host

/-!
# What a drop removes and reports

A drop goes through the valid segments in order.  The directory of one segment may lie below the
directory of another, or be the same, so what a segment finds depends on the ones before it.  What
is left in the end does not: it is what lies below no directory that was there and could be
removed.

## What is here

* `fateOf r there d` — what becomes of a directory, given whether it is there when its turn comes.
* `Manager.Taken m fates p` — the path is at or below the directory of a removed segment.
* `entries_dropSegments` — **the loop removes exactly what is taken**, by induction on the list.
* `fate_at_turn`, `fate_of_dropSegments` — each fate is the one that the state at that turn decides.
* `DropReport.Tells` — a report lists the segments by their fate; `mem_removed_iff`,
  `mem_absent_iff` and `mem_failed_iff` say who is in the three lists.
* `dropData_exact` — **what a drop removes, reports and warns about**.
-/

set_option autoImplicit false

namespace IndexShards

/-! ## One segment -/

/-- What becomes of the directory `d`, if the calls in `r` are refused and `there` says whether it
is there. -/
def fateOf (r : Refusals) (there : Bool) (d : Path) : DropFate :=
  match r.contains d with
  | some e => .failed e
  | none =>
    if there then
      match r.delete d with
      | some e => .failed e
      | none => .removed
    else .absent

section Fate

variable {r : Refusals} {there : Bool} {d : Path}

theorem fateOf_eq_failed_iff {e : Error} :
    fateOf r there d = .failed e ↔
      r.contains d = some e ∨ r.contains d = none ∧ there = true ∧ r.delete d = some e := by
  rw [fateOf]
  cases r.contains d <;> cases there <;> cases r.delete d <;> simp

theorem fateOf_eq_absent_iff :
    fateOf r there d = .absent ↔ r.contains d = none ∧ there = false := by
  rw [fateOf]
  cases r.contains d <;> cases there <;> cases r.delete d <;> simp

theorem fateOf_eq_removed_iff :
    fateOf r there d = .removed ↔ r.contains d = none ∧ there = true ∧ r.delete d = none := by
  rw [fateOf]
  cases r.contains d <;> cases there <;> cases r.delete d <;> simp

end Fate

namespace Manager

variable {α : Type} {m : Manager (Host α)} {refusals : α → Refusals}

/-- The fate that the directory of a segment meets in the state `w`. -/
def fateIn (m : Manager (Host α)) (refusals : α → Refusals) (w : Host α) (s : SegmentId) :
    DropFate :=
  fateOf (refusals w.rest) (w.tree.contains (m.indexDir s)) (m.indexDir s)

/-- A segment meets its fate, and the tree loses its directory if that is to be removed. -/
theorem dropSegment_eq (hs : m.storage = Host.storage refusals) (s : SegmentId) (w : Host α) :
    m.dropSegment s w = (m.fateIn refusals w s,
      if m.fateIn refusals w s = .removed then { w with tree := w.tree.delete (m.indexDir s) }
      else w) := by
  rw [dropSegment, hs, Host.contains_storage, Host.delete_storage, fateIn, fateOf]
  cases (refusals w.rest).contains (m.indexDir s) with
  | some e => simp
  | none =>
    cases w.tree.contains (m.indexDir s) with
    | false => simp
    | true => cases (refusals w.rest).delete (m.indexDir s) <;> simp

/-! ## A list of segments -/

/-- The path is at or below the directory of a segment that was removed. -/
def Taken (m : Manager (Host α)) (fates : List (SegmentId × DropFate)) (p : Path) : Prop :=
  ∃ x ∈ fates, x.2 = .removed ∧ (m.indexDir x.1).isAtOrAbove p = true

instance (fates : List (SegmentId × DropFate)) (p : Path) : Decidable (m.Taken fates p) :=
  inferInstanceAs (Decidable (∃ x ∈ fates, _))

theorem not_taken_nil {p : Path} : ¬m.Taken [] p := by
  simp [Taken]

theorem taken_cons {s : SegmentId} {fate : DropFate} {fates : List (SegmentId × DropFate)}
    {p : Path} : m.Taken ((s, fate) :: fates) p ↔
      fate = .removed ∧ (m.indexDir s).isAtOrAbove p = true ∨ m.Taken fates p := by
  simp [Taken]

theorem Taken.of_isAtOrAbove {fates : List (SegmentId × DropFate)} {p q : Path}
    (h : m.Taken fates p) (hpq : p.isAtOrAbove q = true) : m.Taken fates q := by
  obtain ⟨x, hx, hfate, hp⟩ := h
  exact ⟨x, hx, hfate, Path.isAtOrAbove_trans hp hpq⟩

theorem rest_dropSegments (hs : m.storage = Host.storage refusals) (ss : List SegmentId)
    (w : Host α) : (m.dropSegments ss w).2.rest = w.rest := by
  induction ss generalizing w with
  | nil => rfl
  | cons s ss ih =>
    rw [dropSegments, dropSegment_eq hs]
    simp only
    rw [ih]
    split <;> rfl

/-- **The loop removes exactly what is taken.** -/
theorem entries_dropSegments (hs : m.storage = Host.storage refusals) (ss : List SegmentId)
    (w : Host α) : (m.dropSegments ss w).2.tree.entries =
      w.tree.entries.filter fun e => decide ¬m.Taken (m.dropSegments ss w).1 e.path := by
  induction ss generalizing w with
  | nil => exact (List.filter_eq_self.2 fun e _ => decide_eq_true not_taken_nil).symm
  | cons s ss ih =>
    rw [dropSegments, dropSegment_eq hs]
    simp only [ih, taken_cons]
    split
    · next h =>
      rw [Tree.delete, List.filter_filter]
      refine List.filter_congr fun e _ => ?_
      cases (m.indexDir s).isAtOrAbove e.path <;> simp [h]
    · next h => simp only [h, false_and, false_or]

/-- Where nothing is taken the loop changes nothing. -/
theorem kind?_dropSegments (hs : m.storage = Host.storage refusals) (ss : List SegmentId)
    (w : Host α) (p : Path) : (m.dropSegments ss w).2.tree.kind? p =
      if m.Taken (m.dropSegments ss w).1 p then none else w.tree.kind? p := by
  induction ss generalizing w with
  | nil => exact (if_neg not_taken_nil).symm
  | cons s ss ih =>
    rw [dropSegments, dropSegment_eq hs]
    simp only [ih, taken_cons]
    split
    · next h =>
      rw [Tree.kind?_delete]
      cases (m.indexDir s).isAtOrAbove p <;> simp [h]
    · next h => simp only [h, false_and, false_or]

/-- What is in the tree after the loop was there before and is not taken. -/
theorem contains_dropSegments (hs : m.storage = Host.storage refusals) (ss : List SegmentId)
    (w : Host α) (p : Path) : (m.dropSegments ss w).2.tree.contains p = true ↔
      w.tree.contains p = true ∧ ¬m.Taken (m.dropSegments ss w).1 p := by
  rw [Tree.contains_eq_isSome_kind?, Tree.contains_eq_isSome_kind?, kind?_dropSegments hs]
  split
  · next h => simp [h]
  · next h => simp [h]

/-- Each fate is the one that the segment meets at its turn, on any file system. -/
theorem fate_at_turn {ω : Type} {m : Manager ω} {ss : List SegmentId} {w : ω}
    {before after : List (SegmentId × DropFate)} {s : SegmentId} {fate : DropFate}
    (h : (m.dropSegments ss w).1 = before ++ (s, fate) :: after) :
    (m.dropSegments (before.map Prod.fst) w).1 = before ∧
      fate = (m.dropSegment s (m.dropSegments (before.map Prod.fst) w).2).1 := by
  have hss : ss = before.map Prod.fst ++ s :: after.map Prod.fst := by
    rw [← m.map_fst_dropSegments ss w, h, List.map_append, List.map_cons]
  rw [hss, dropSegments_append] at h
  have hlength : (m.dropSegments (before.map Prod.fst) w).1.length = before.length := by
    rw [← List.length_map Prod.fst, map_fst_dropSegments, List.length_map]
  obtain ⟨hbefore, hrest⟩ := List.append_inj h hlength
  refine ⟨hbefore, ?_⟩
  rw [dropSegments] at hrest
  exact (congrArg Prod.snd (List.cons.inj hrest).1).symm

/-- Each fate is the one that the segment meets in the state at its turn. -/
theorem fate_of_dropSegments (hs : m.storage = Host.storage refusals) {ss : List SegmentId}
    {w : Host α} {before after : List (SegmentId × DropFate)} {s : SegmentId} {fate : DropFate}
    (h : (m.dropSegments ss w).1 = before ++ (s, fate) :: after) :
    (m.dropSegments (before.map Prod.fst) w).1 = before ∧
      fate = m.fateIn refusals (m.dropSegments (before.map Prod.fst) w).2 s := by
  obtain ⟨hbefore, hfate⟩ := fate_at_turn h
  rw [dropSegment_eq hs] at hfate
  exact ⟨hbefore, hfate⟩

/-! ## What is gone in the end -/

/-- The directory of the segment is there, and neither looking at it nor deleting it is refused. -/
def Removable (m : Manager (Host α)) (refusals : α → Refusals) (w : Host α) (s : SegmentId) :
    Prop :=
  w.tree.contains (m.indexDir s) = true ∧ (refusals w.rest).contains (m.indexDir s) = none ∧
    (refusals w.rest).delete (m.indexDir s) = none

instance (w : Host α) (s : SegmentId) : Decidable (m.Removable refusals w s) :=
  inferInstanceAs (Decidable (_ ∧ _))

/-- The fate of a segment, in terms of the start and of what was removed before its turn. -/
theorem fate_iff (hs : m.storage = Host.storage refusals) {ss : List SegmentId} {w : Host α}
    {before after : List (SegmentId × DropFate)} {s : SegmentId} {fate : DropFate}
    (h : (m.dropSegments ss w).1 = before ++ (s, fate) :: after) :
    (∀ e, fate = .failed e ↔ (refusals w.rest).contains (m.indexDir s) = some e ∨
      (refusals w.rest).contains (m.indexDir s) = none ∧
        (m.dropSegments (before.map Prod.fst) w).2.tree.contains (m.indexDir s) = true ∧
        (refusals w.rest).delete (m.indexDir s) = some e) ∧
    (fate = .absent ↔ (refusals w.rest).contains (m.indexDir s) = none ∧
      (w.tree.contains (m.indexDir s) = false ∨ m.Taken before (m.indexDir s))) ∧
    (fate = .removed ↔ m.Removable refusals w s ∧ ¬m.Taken before (m.indexDir s)) := by
  obtain ⟨hbefore, rfl⟩ := fate_of_dropSegments hs h
  have hthere := contains_dropSegments hs (before.map Prod.fst) w (m.indexDir s)
  rw [hbefore] at hthere
  rw [fateIn, rest_dropSegments hs]
  refine ⟨fun e => fateOf_eq_failed_iff, ?_, ?_⟩
  · rw [fateOf_eq_absent_iff, ← Bool.not_eq_true, hthere, not_and, Decidable.not_not,
      ← Bool.not_eq_true, imp_iff_not_or]
  · rw [fateOf_eq_removed_iff, hthere, Removable]
    constructor
    · rintro ⟨hc, ⟨hw, hnot⟩, hd⟩
      exact ⟨⟨hw, hc, hd⟩, hnot⟩
    · rintro ⟨⟨hw, hc, hd⟩, hnot⟩
      exact ⟨hc, ⟨hw, hnot⟩, hd⟩

/-- What is taken in the end does not depend on the order of the segments. -/
theorem taken_dropSegments_iff (hs : m.storage = Host.storage refusals) (ss : List SegmentId)
    (w : Host α) (p : Path) : m.Taken (m.dropSegments ss w).1 p ↔
      ∃ s ∈ ss, m.Removable refusals w s ∧ (m.indexDir s).isAtOrAbove p = true := by
  constructor
  · rintro ⟨⟨s, fate⟩, hx, hfate, hp⟩
    obtain ⟨before, after, hsplit⟩ := List.append_of_mem hx
    have hmem : s ∈ ss := by
      rw [← m.map_fst_dropSegments ss w]
      exact List.mem_map_of_mem hx
    exact ⟨s, hmem, ((fate_iff hs hsplit).2.2.1 hfate).1, hp⟩
  · rintro ⟨s, hmem, hrem, hp⟩
    rw [← m.map_fst_dropSegments ss w] at hmem
    obtain ⟨⟨s, fate⟩, hx, rfl⟩ := List.mem_map.1 hmem
    obtain ⟨before, after, hsplit⟩ := List.append_of_mem hx
    -- the segment is removed at its turn, or its directory went with an earlier one
    by_cases htaken : m.Taken before (m.indexDir s)
    · obtain ⟨y, hy, hfate, hd⟩ := htaken
      refine ⟨y, ?_, hfate, Path.isAtOrAbove_trans hd hp⟩
      rw [hsplit]
      exact List.mem_append_left _ hy
    · exact ⟨(s, fate), hx, (fate_iff hs hsplit).2.2.2 ⟨hrem, htaken⟩, hp⟩

end Manager

/-! ## The report -/

instance : DecidablePred fun fate : DropFate => ∃ e, fate = .failed e
  | .removed => isFalse (by rintro ⟨_, ⟨⟩⟩)
  | .absent => isFalse (by rintro ⟨_, ⟨⟩⟩)
  | .failed e => isTrue ⟨e, rfl⟩

/-- The report tells the fates of the segments: each of its lists holds the segments with that
fate, in their order. -/
structure DropReport.Tells (r : DropReport) (fates : List (SegmentId × DropFate)) : Prop where
  removed_eq : r.removed = (fates.filter fun x => decide (x.2 = .removed)).map Prod.fst
  absent_eq : r.absent = (fates.filter fun x => decide (x.2 = .absent)).map Prod.fst
  failed_eq : r.failed = (fates.filter fun x => decide (∃ e, x.2 = .failed e)).map Prod.fst
  statusError_eq : r.statusError = none

section Report

variable {fates : List (SegmentId × DropFate)} {s : SegmentId}

/-- The segments with some fate, as the report picks them out. -/
theorem filterMap_eq_map_filter (P : DropFate → Prop) [DecidablePred P]
    {pick : SegmentId × DropFate → Option SegmentId}
    (h : ∀ s fate, pick (s, fate) = if P fate then some s else none) :
    fates.filterMap pick = (fates.filter fun x => decide (P x.2)).map Prod.fst := by
  have hpick : pick = fun x => if P x.2 then some x.1 else none := funext fun x => h x.1 x.2
  rw [hpick, ← List.filterMap_eq_map', List.filterMap_filter]
  simp only [decide_eq_true_eq]

theorem tells_ofFates (fates : List (SegmentId × DropFate)) :
    (DropReport.ofFates fates).Tells fates := by
  refine ⟨?_, ?_, ?_, rfl⟩
  · exact filterMap_eq_map_filter (· = .removed) fun _ fate => by cases fate <;> simp
  · exact filterMap_eq_map_filter (· = .absent) fun _ fate => by cases fate <;> simp
  · exact filterMap_eq_map_filter (fun fate => ∃ e, fate = .failed e) fun _ fate => by
      cases fate <;> simp

theorem mem_removed_iff : s ∈ (DropReport.ofFates fates).removed ↔ (s, .removed) ∈ fates := by
  simp [(tells_ofFates fates).removed_eq]

theorem mem_absent_iff : s ∈ (DropReport.ofFates fates).absent ↔ (s, .absent) ∈ fates := by
  simp [(tells_ofFates fates).absent_eq]

theorem mem_failed_iff :
    s ∈ (DropReport.ofFates fates).failed ↔ ∃ e, (s, .failed e) ∈ fates := by
  simp only [(tells_ofFates fates).failed_eq, List.mem_map, List.mem_filter, decide_eq_true_eq]
  constructor
  · rintro ⟨⟨s, fate⟩, ⟨hx, e, rfl⟩, rfl⟩
    exact ⟨e, hx⟩
  · rintro ⟨e, hx⟩
    exact ⟨_, ⟨hx, e, rfl⟩, rfl⟩

end Report

/-- Every segment is in one of the three lists of a report, and as often as it was dealt with. -/
theorem ofFates_perm (fates : List (SegmentId × DropFate)) :
    ((DropReport.ofFates fates).removed ++ (DropReport.ofFates fates).absent ++
      (DropReport.ofFates fates).failed).Perm (fates.map Prod.fst) := by
  induction fates with
  | nil => exact .nil
  | cons x fates ih =>
    obtain ⟨s, fate⟩ := x
    cases fate with
    | removed => exact ih.cons s
    | absent =>
      exact (List.Perm.append_right _ List.perm_middle).trans (ih.cons s)
    | failed e => exact List.perm_middle.trans (ih.cons s)

namespace Manager

variable {α : Type} {m : Manager (Host α)} {refusals : α → Refusals}

/-- There is one warning for every failure. -/
theorem length_warnings (m : Manager (Host α)) (fates : List (SegmentId × DropFate)) :
    (fates.filterMap m.dropWarning?).length = (DropReport.ofFates fates).failed.length := by
  induction fates with
  | nil => rfl
  | cons x fates ih =>
    obtain ⟨s, fate⟩ := x
    cases fate with
    | removed => exact ih
    | absent => exact ih
    | failed e => exact congrArg (· + 1) ih

theorem level_of_dropWarning? {x : SegmentId × DropFate} {record : LogRecord}
    (h : m.dropWarning? x = some record) : record.level = .warn := by
  obtain ⟨s, fate⟩ := x
  cases fate with
  | removed => cases h
  | absent => cases h
  | failed e => exact Option.some.inj h ▸ rfl

/-- The warnings of a drop are those about the failures. -/
theorem warnings_dropData {w : Host α} {segments : List SegmentId}
    (hstatus : m.status w m.table = .ok segments) :
    (m.dropData w).log.filter (fun x => decide (x.level = .warn)) =
      (m.dropSegments segments w).1.filterMap m.dropWarning? := by
  rw [dropData, hstatus]
  simp only [List.filter_append, List.filter_cons, reduceCtorEq, decide_false, Bool.false_eq_true,
    ↓reduceIte, List.filter_nil, List.append_nil]
  refine List.filter_eq_self.2 fun record hrecord => decide_eq_true ?_
  obtain ⟨x, -, hx⟩ := List.mem_filterMap.1 hrecord
  exact level_of_dropWarning? hx

/-- Without the list of valid segments nothing happens, and that is an error. -/
theorem dropData_of_error {w : Host α} {e : Error} (hstatus : m.status w m.table = .error e) :
    (m.dropData w).world = w ∧ (m.dropData w).value = { statusError := some e.message } ∧
      (m.dropData w).log.map LogRecord.level = [.error] := by
  rw [dropData, hstatus]
  exact ⟨rfl, rfl, rfl⟩

/-- With it, the loop decides, on any file system. -/
theorem dropData_of_ok {ω : Type} {m : Manager ω} {w : ω} {segments : List SegmentId}
    (hstatus : m.status w m.table = .ok segments) :
    (m.dropData w).world = (m.dropSegments segments w).2 ∧
      (m.dropData w).value = DropReport.ofFates (m.dropSegments segments w).1 := by
  rw [dropData, hstatus]
  exact ⟨rfl, rfl⟩

/-- **What a drop removes, reports and warns about.**  If the valid segments cannot be told,
nothing is removed or reported, and the one message is an error.  Otherwise the tree loses what is
at or below a directory that was there and could be removed, in whatever order the segments are
listed; and there is an account of the segments, in their order, such that each list of the report
holds the segments with that fate and there is one warning for each failure.  In it a segment is

* failed, if its directory cannot be looked at, or if it is there at its turn and cannot be
  deleted;
* absent, if it can be looked at and was missing from the start, or was taken by an earlier
  segment;
* removed, if neither is the case. -/
theorem dropData_exact (hs : m.storage = Host.storage refusals) (w : Host α) :
    (∀ e, m.status w m.table = .error e → (m.dropData w).world = w ∧
      (m.dropData w).value = { statusError := some e.message } ∧
      (m.dropData w).log.map LogRecord.level = [.error]) ∧
    ∀ segments, m.status w m.table = .ok segments →
      (m.dropData w).world.rest = w.rest ∧
      (m.dropData w).world.tree.entries = w.tree.entries.filter (fun x =>
        decide ¬∃ s ∈ segments, m.Removable refusals w s ∧
          (m.indexDir s).isAtOrAbove x.path = true) ∧
      ∃ fates : List (SegmentId × DropFate), fates.map Prod.fst = segments ∧
        (m.dropData w).value.Tells fates ∧
        ((m.dropData w).value.removed ++ (m.dropData w).value.absent ++
          (m.dropData w).value.failed).Perm segments ∧
        (m.dropData w).log.filter (fun x => decide (x.level = .warn)) =
          fates.filterMap m.dropWarning? ∧
        (fates.filterMap m.dropWarning?).length = (m.dropData w).value.failed.length ∧
        ∀ before s fate after, fates = before ++ (s, fate) :: after →
          (∀ e, fate = .failed e ↔ (refusals w.rest).contains (m.indexDir s) = some e ∨
            (refusals w.rest).contains (m.indexDir s) = none ∧
              (m.dropSegments (before.map Prod.fst) w).2.tree.contains (m.indexDir s) = true ∧
              (refusals w.rest).delete (m.indexDir s) = some e) ∧
          (fate = .absent ↔ (refusals w.rest).contains (m.indexDir s) = none ∧
            (w.tree.contains (m.indexDir s) = false ∨ m.Taken before (m.indexDir s))) ∧
          (fate = .removed ↔ m.Removable refusals w s ∧ ¬m.Taken before (m.indexDir s)) := by
  constructor
  · exact fun e he => dropData_of_error he
  · intro segments hstatus
    obtain ⟨hworld, hvalue⟩ := dropData_of_ok hstatus
    have hfst := m.map_fst_dropSegments segments w
    have hperm := ofFates_perm (m.dropSegments segments w).1
    rw [hfst] at hperm
    rw [hworld, hvalue]
    refine ⟨rest_dropSegments hs segments w, ?_, (m.dropSegments segments w).1, hfst,
      tells_ofFates _, hperm, warnings_dropData hstatus, length_warnings m _,
      fun before s fate after h => fate_iff hs h⟩
    rw [entries_dropSegments hs]
    simp only [taken_dropSegments_iff hs]

/-- The directory of the second segment lies below the one of the first and goes with it; the third
segment is the first once more; the fourth is refused; and of the last there is none. -/
theorem dropData_exact_of_nested_segments :
    let tree := ((Tree.empty.createDir ⟨"/t/0/a/x/a/s1"⟩).2.createDir ⟨"/t/1/a"⟩).2
    let refusals : Unit → Refusals := fun _ =>
      { delete := fun p => if p = ⟨"/t/1/a"⟩ then some (.storage (.other "busy")) else none }
    let w : Host Unit := ⟨tree, ()⟩
    let m := Host.manager ⟨"t", ⟨"/t"⟩⟩ "a" [⟨"0"⟩, ⟨"0/a/x"⟩, ⟨"0"⟩, ⟨"1"⟩, ⟨"2"⟩] refusals
      fun _ => .ok .empty
    (m.dropData w).world.tree.entries.map (fun x => x.path.text) =
        ["/", "/t", "/t/0", "/t/1", "/t/1/a"] ∧
      (m.dropData w).value =
        { removed := [⟨"0"⟩], absent := [⟨"0/a/x"⟩, ⟨"0"⟩, ⟨"2"⟩], failed := [⟨"1"⟩] } := by
  intro tree refusals w m
  have hstorage : m.storage = Host.storage refusals := rfl
  have hexact := (dropData_exact hstorage w).2 _ rfl
  refine ⟨?_, by decide +kernel⟩
  rw [hexact.2.1]
  decide +kernel

end Manager
end IndexShards
