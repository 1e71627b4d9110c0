import IndexShards.Manager

/-!
# Dropping the data of an index

When an index is dropped, its directory is removed from every valid segment.  The removal is best
effort: a segment whose directory cannot be looked at or removed is reported and the others are
still cleaned.  If the valid segments cannot be told, nothing is removed.

## What is here

* `DropFate` — what became of the directory in one segment.
* `Manager.dropSegment`, `Manager.dropSegments` — one segment, and a list of them in order.
* `DropReport`, `DropReport.ofFates` — the segments by their fate.
* `Manager.dropData` — all of it.
-/

set_option autoImplicit false

namespace IndexShards

/-! ## One segment -/

/-- What became of the directory of an index in a segment. -/
inductive DropFate where
  /-- It was there and is deleted. -/
  | removed
  /-- It was not there. -/
  | absent
  /-- It could not be looked at, or not be deleted. -/
  | failed (e : Error)
deriving DecidableEq

namespace Manager

variable {ω : Type}

/-- Deletes the directory of the index in a segment, if it is there. -/
def dropSegment (m : Manager ω) (segment : SegmentId) (w : ω) : DropFate × ω :=
  match m.storage.contains w (m.indexDir segment) with
  | .error e => (.failed e, w)
  | .ok false => (.absent, w)
  | .ok true =>
    match m.storage.delete w (m.indexDir segment) with
    | (.ok (), w) => (.removed, w)
    | (.error e, w) => (.failed e, w)

/-- Deletes the directory of the index in each segment, in order. -/
def dropSegments (m : Manager ω) : List SegmentId → ω → List (SegmentId × DropFate) × ω
  | [], w => ([], w)
  | s :: ss, w =>
    let (fate, w) := m.dropSegment s w
    let (fates, w) := dropSegments m ss w
    ((s, fate) :: fates, w)

theorem dropSegments_append (m : Manager ω) (ss ts : List SegmentId) (w : ω) :
    m.dropSegments (ss ++ ts) w =
      ((m.dropSegments ss w).1 ++ (m.dropSegments ts (m.dropSegments ss w).2).1,
        (m.dropSegments ts (m.dropSegments ss w).2).2) := by
  induction ss generalizing w with
  | nil => rfl
  | cons s ss ih => simp [dropSegments, ih]

/-- Every segment of the list has its fate, in the order of the list. -/
theorem map_fst_dropSegments (m : Manager ω) (ss : List SegmentId) (w : ω) :
    (m.dropSegments ss w).1.map Prod.fst = ss := by
  induction ss generalizing w with
  | nil => rfl
  | cons s ss ih => simp [dropSegments, ih]

end Manager

/-! ## The report -/

/-- What a drop did, segment by segment. -/
structure DropReport where
  removed : List SegmentId := []
  absent : List SegmentId := []
  failed : List SegmentId := []
  /-- Why the valid segments could not be told. -/
  statusError : Option String := none
deriving DecidableEq

namespace DropReport

/-- Nothing went wrong. -/
def isClean (r : DropReport) : Bool := r.failed.isEmpty && r.statusError.isNone

/-- The segments by their fate, each list in order. -/
def ofFates (fates : List (SegmentId × DropFate)) : DropReport where
  removed := fates.filterMap fun (s, fate) => match fate with | .removed => some s | _ => none
  absent := fates.filterMap fun (s, fate) => match fate with | .absent => some s | _ => none
  failed := fates.filterMap fun (s, fate) => match fate with | .failed _ => some s | _ => none

end DropReport

namespace Manager

variable {ω : Type}

/-- The warning about a segment whose directory is still there. -/
def dropWarning? (m : Manager ω) : SegmentId × DropFate → Option LogRecord
  | (s, .failed e) =>
    some ⟨.warn, "failed to delete text index directory " ++ (m.indexDir s).text ++ ": " ++
      e.message⟩
  | _ => none

/-- Deletes the directory of the index in every valid segment, and reports what became of each. -/
def dropData (m : Manager ω) (w : ω) : Outcome ω DropReport :=
  match m.status w m.table with
  | .error e =>
    { value := { statusError := some e.message }
      log := [⟨.error, "failed to delete text index " ++ m.indexName ++
        " directory: cannot list valid segments of table " ++ m.table.name ++ ": " ++ e.message⟩]
      world := w }
  | .ok segments =>
    let (fates, w) := m.dropSegments segments w
    let report := DropReport.ofFates fates
    { value := report
      log := fates.filterMap m.dropWarning? ++
        [⟨.info, "dropped text index " ++ m.indexName ++ " data: " ++
          toString report.removed.length ++ " removed, " ++ toString report.absent.length ++
          " absent, " ++ toString report.failed.length ++ " failed"⟩]
      world := w }

end Manager
end IndexShards
