import IndexShards.Proofs.Disk.Missing
import IndexShards.Proofs.Drop.Account

/-!
# Dropping the data of an index from a disk

A drop looks for the directory of the index in each segment before it deletes anything.  On a disk a
segment without such a directory is reported as absent, unless a file stands on the way to where it
would be: then the disk refuses to look, and the segment is reported as failed.  An earlier segment
may take that file away, so it depends on the disk at the turn of the segment.

## What is here

* `shrunk_dropSegment`, `shrunk_dropSegments` — a drop leaves a part of the disk.
* `dropSegment_of_takesAsMissing`, `dropSegment_of_refuses` — one segment.
* `mem_dropSegments_iff` — the fates of a segment are those that it meets where the list has it;
  `mem_dropSegments_of_missing` — and those of one without a directory of the index.
* `Disk.missing_exact` — **what a disk says of a path at which nothing is, and what a drop makes of
  it**.
-/

set_option autoImplicit false

namespace IndexShards

open Disk

namespace Manager

/-! ## The loop -/

section Loop

variable {m : Manager Disk} {d : Disk} {s : SegmentId} (hs : m.storage = Disk.fileSystem)

include hs

theorem dropSegment_of_takesAsMissing (h : d.TakesAsMissing (m.indexDir s)) :
    m.dropSegment s d = (.absent, d) := by
  rw [dropSegment, hs, h.contains]

theorem dropSegment_of_refuses {e : Error} (h : d.Refuses (m.indexDir s) e) :
    m.dropSegment s d = (.failed e, d) := by
  rw [dropSegment, hs, h.contains]

theorem shrunk_dropSegment (s : SegmentId) (d : Disk) : Shrunk d (m.dropSegment s d).2 := by
  have hdelete : Shrunk d (Disk.fileSystem.delete d (m.indexDir s)).2 := by
    show Shrunk d (d.delete (m.indexDir s)).2
    exact shrunk_delete d (m.indexDir s)
  rw [dropSegment, hs]
  split
  · exact shrunk_refl d
  · exact shrunk_refl d
  · split
    · next heq => rwa [heq] at hdelete
    · next heq => rwa [heq] at hdelete

/-- **A drop leaves a part of the disk.** -/
theorem shrunk_dropSegments (ss : List SegmentId) (d : Disk) :
    Shrunk d (m.dropSegments ss d).2 := by
  induction ss generalizing d with
  | nil => exact shrunk_refl d
  | cons s ss ih => exact (shrunk_dropSegment hs s d).trans (ih _)

end Loop

/-- The fates of a segment are those that it meets wherever the list has it. -/
theorem mem_dropSegments_iff {ω : Type} {m : Manager ω} {ss : List SegmentId} {w : ω}
    {s : SegmentId} {fate : DropFate} : (s, fate) ∈ (m.dropSegments ss w).1 ↔
      ∃ before after, ss = before ++ s :: after ∧
        fate = (m.dropSegment s (m.dropSegments before w).2).1 := by
  constructor
  · intro h
    obtain ⟨before, after, heq⟩ := List.append_of_mem h
    refine ⟨before.map Prod.fst, after.map Prod.fst, ?_, (fate_at_turn heq).2⟩
    rw [← m.map_fst_dropSegments ss w, heq, List.map_append, List.map_cons]
  · rintro ⟨before, after, rfl, rfl⟩
    rw [dropSegments_append]
    exact List.mem_append_right _ List.mem_cons_self

/-! ## Segments without a directory -/

section Missing

variable {m : Manager Disk} {d : Disk} {s : SegmentId} {segments : List SegmentId}
  {fate : DropFate} (hs : m.storage = Disk.fileSystem) (hd : d.LinkFree)
  (hp : (m.indexDir s).IsPlain) (hnone : d.node? (d.workDir ++ (m.indexDir s).names) = none)

include hs hd hp hnone

/-- A segment in which nothing is where the directory of the index would be is absent, or has failed
if a file stands on the way. -/
theorem dropSegment_of_missing : (m.dropSegment s d).1 =
    if d.Blocked (m.indexDir s).names then .failed (.io .notDirectory) else .absent := by
  split
  · next hblocked => rw [dropSegment_of_refuses hs (refuses_of_blocked hp hblocked)]
  · next hfree =>
    rw [dropSegment_of_takesAsMissing hs (takesAsMissing_of_not_blocked hd hp hnone hfree)]

/-- Nothing comes to be there while segments are dropped, so this is its fate wherever the list has
it. -/
theorem mem_dropSegments_of_missing : (s, fate) ∈ (m.dropSegments segments d).1 ↔
    ∃ before after, segments = before ++ s :: after ∧
      fate = if (m.dropSegments before d).2.Blocked (m.indexDir s).names
        then .failed (.io .notDirectory) else .absent := by
  rw [mem_dropSegments_iff]
  refine exists_congr fun before => exists_congr fun after => and_congr_right fun _ => ?_
  have hshrunk := shrunk_dropSegments hs before d
  have hnone' := hshrunk.node?_eq_none hnone
  rw [← hshrunk.workDir_eq] at hnone'
  rw [dropSegment_of_missing hs (hshrunk.linkFree hd) hp hnone']

theorem absent_mem_dropSegments : (s, .absent) ∈ (m.dropSegments segments d).1 ↔
    ∃ before after, segments = before ++ s :: after ∧
      ¬(m.dropSegments before d).2.Blocked (m.indexDir s).names := by
  rw [mem_dropSegments_of_missing hs hd hp hnone]
  refine exists_congr fun before => exists_congr fun after => and_congr_right fun _ => ?_
  split
  · next hblocked => exact iff_of_false nofun (not_not_intro hblocked)
  · next hfree => exact iff_of_true rfl hfree

theorem failed_mem_dropSegments : (∃ e, (s, .failed e) ∈ (m.dropSegments segments d).1) ↔
    ∃ before after, segments = before ++ s :: after ∧
      (m.dropSegments before d).2.Blocked (m.indexDir s).names := by
  simp only [mem_dropSegments_of_missing hs hd hp hnone]
  constructor
  · rintro ⟨e, before, after, heq, hfate⟩
    refine ⟨before, after, heq, ?_⟩
    by_contra hfree
    rw [if_neg hfree] at hfate
    cases hfate
  · rintro ⟨before, after, heq, hblocked⟩
    exact ⟨_, before, after, heq, (if_pos hblocked).symm⟩

theorem removed_not_mem_dropSegments : (s, .removed) ∉ (m.dropSegments segments d).1 := by
  rw [mem_dropSegments_of_missing hs hd hp hnone]
  rintro ⟨before, after, -, hfate⟩
  split at hfate <;> cases hfate

end Missing

end Manager

/-! ## What a disk says of a path at which nothing is -/

/-- **What a disk says of a plain path at which nothing is.**  Without a file on the way nothing is
there, a listing of the path is empty, and deleting it succeeds without a change.  With a file on
the way all three are refused, since the file is no directory.

A drop reports a segment whose directory would be there as absent or as failed, and never as
removed.  It is absent if no file is on the way at some turn of it, and failed if one is; and if
none was at the start, then none ever is. -/
theorem Disk.missing_exact {d : Disk} (hd : d.LinkFree) {p : Path} (hp : p.IsPlain)
    (hnone : d.node? (d.workDir ++ p.names) = none) :
    (d.TakesAsMissing p ↔ ¬d.Blocked p.names) ∧
    (d.Blocked p.names → d.Refuses p (.io .notDirectory)) ∧
    ∀ (m : Manager Disk) (segments : List SegmentId) (s : SegmentId),
      m.storage = Disk.fileSystem → m.status d m.table = .ok segments → s ∈ segments →
      m.indexDir s = p →
        (¬d.Blocked p.names →
          s ∈ (m.dropData d).value.absent ∧ s ∉ (m.dropData d).value.failed) ∧
        s ∉ (m.dropData d).value.removed ∧
        (s ∈ (m.dropData d).value.absent ↔ ∃ before after, segments = before ++ s :: after ∧
          ¬(m.dropSegments before d).2.Blocked p.names) ∧
        (s ∈ (m.dropData d).value.failed ↔ ∃ before after, segments = before ++ s :: after ∧
          (m.dropSegments before d).2.Blocked p.names) := by
  refine ⟨takesAsMissing_iff hd hp hnone, refuses_of_blocked hp, ?_⟩
  rintro m segments s hs hstatus hmem rfl
  rw [(Manager.dropData_of_ok hstatus).2, mem_absent_iff, mem_failed_iff,
    mem_removed_iff, Manager.absent_mem_dropSegments hs hd hp hnone,
    Manager.failed_mem_dropSegments hs hd hp hnone]
  have hstart : ∀ before, (m.dropSegments before d).2.Blocked (m.indexDir s).names →
      d.Blocked (m.indexDir s).names :=
    fun before => (Manager.shrunk_dropSegments hs before d).blocked
  refine ⟨fun hfree => ⟨?_, ?_⟩, Manager.removed_not_mem_dropSegments hs hd hp hnone, Iff.rfl,
    Iff.rfl⟩
  · obtain ⟨before, after, heq⟩ := List.append_of_mem hmem
    exact ⟨before, after, heq, fun hblocked => hfree (hstart before hblocked)⟩
  · rintro ⟨before, after, -, hblocked⟩
    exact hfree (hstart before hblocked)

/-- The manager of an index over a disk.  Its host always knows the valid segments, and has neither
a registry nor an engine. -/
def Disk.manager (table : TableId) (indexName : String) (segments : List SegmentId) :
    Manager Disk :=
  { Manager.bare table indexName ["text"] .absent with
    storage := Disk.fileSystem
    status := fun _ _ => .ok segments }

/-- One segment has no directory of the index.  Of the other one such a directory would be below a
file, which goes with a segment between its two turns; so it fails first and is absent then. -/
theorem Disk.missing_exact_of_file_between :
    let d := (((Disk.empty ["srv"]).put ["srv", "t"] .dir).put ["srv", "t", "1"] .dir).put
      ["srv", "t", "1", "idx"] .file
    let m := Disk.manager ⟨"t", ⟨"t"⟩⟩ "idx" [⟨"0"⟩, ⟨"1/idx/x"⟩, ⟨"1"⟩, ⟨"1/idx/x"⟩]
    let p : Path := ⟨"t/0/idx"⟩
    let q : Path := ⟨"t/1/idx/x/idx"⟩
    d.LinkFree ∧ p.IsPlain ∧ q.IsPlain ∧ d.node? (d.workDir ++ p.names) = none ∧
      d.node? (d.workDir ++ q.names) = none ∧ d.TakesAsMissing p ∧
      d.Refuses q (.io .notDirectory) ∧
      ⟨"0"⟩ ∈ (m.dropData d).value.absent ∧ ⟨"1/idx/x"⟩ ∈ (m.dropData d).value.absent ∧
      ⟨"1/idx/x"⟩ ∈ (m.dropData d).value.failed := by
  intro d m p q
  have hd : d.LinkFree := by decide +kernel
  have hp : p.IsPlain := by decide +kernel
  have hq : q.IsPlain := by decide +kernel
  have hnoneP : d.node? (d.workDir ++ p.names) = none := by decide +kernel
  have hnoneQ : d.node? (d.workDir ++ q.names) = none := by decide +kernel
  have hfree : ¬d.Blocked p.names := by decide +kernel
  have hblocked : d.Blocked q.names := by decide +kernel
  obtain ⟨hmissing, -, hdropP⟩ := missing_exact hd hp hnoneP
  obtain ⟨-, hrefuses, hdropQ⟩ := missing_exact hd hq hnoneQ
  have hdirP : m.indexDir ⟨"0"⟩ = p := by decide +kernel
  have hdirQ : m.indexDir ⟨"1/idx/x"⟩ = q := by decide +kernel
  have hreportP := hdropP m _ ⟨"0"⟩ rfl rfl (by simp) hdirP
  have hreportQ := hdropQ m _ ⟨"1/idx/x"⟩ rfl rfl (by simp) hdirQ
  refine ⟨hd, hp, hq, hnoneP, hnoneQ, hmissing.2 hfree, hrefuses hblocked, (hreportP.1 hfree).1,
    ?_, ?_⟩
  · exact hreportQ.2.2.1.2 ⟨[⟨"0"⟩, ⟨"1/idx/x"⟩, ⟨"1"⟩], [], rfl, by decide +kernel⟩
  · exact hreportQ.2.2.2.2 ⟨[⟨"0"⟩], _, rfl, by decide +kernel⟩

end IndexShards
