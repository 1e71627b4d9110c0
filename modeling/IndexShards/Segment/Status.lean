import IndexShards.Error
import IndexShards.Segment.Layout

/-!
# Which segments are valid

A segment that was merged into another one, or marked for deletion, is no longer valid.  Hosts that
track their segments elsewhere give a `StatusSource`; `SegmentList` is one that is kept in memory.

## What is here

* `StatusSource ω` — the valid segments of a table, as far as the state `ω` of the host tells.
* `SegmentList` — the valid segments in the order in which they became valid, of one table or of
  whichever table is asked for.
* `SegmentList.add`, `SegmentList.invalidate`, `SegmentList.validFor` — its operations.
-/

set_option autoImplicit false

namespace IndexShards

/-- Tells the valid segments of a table, or fails to. -/
abbrev StatusSource (ω : Type) := ω → TableId → Except Error (List SegmentId)

/-- The valid segments of a table, or of any table if none is named. -/
structure SegmentList where
  valid : List SegmentId
  table? : Option String := none

namespace SegmentList

/-- The same segments, for the table with this name only. -/
def forTable (l : SegmentList) (table : String) : SegmentList := { l with table? := some table }

/-- Makes a segment valid; one that is valid already keeps its place. -/
def add (l : SegmentList) (id : SegmentId) : SegmentList :=
  if id ∈ l.valid then l else { l with valid := l.valid ++ [id] }

/-- Makes a segment invalid, with all its copies in the list.  The answer says whether the list is
shorter now. -/
def invalidate (l : SegmentList) (id : SegmentId) : Bool × SegmentList :=
  let kept := l.valid.filter fun s => s != id
  (kept.length != l.valid.length, { l with valid := kept })

/-- The valid segments of a table. -/
def validFor (l : SegmentList) (table : TableId) : Except Error (List SegmentId) :=
  match l.table? with
  | none => .ok l.valid
  | some name =>
    if name = table.name then .ok l.valid else .error (.invalidArgument (.noStatus table.name))

theorem mem_valid_add {l : SegmentList} {id s : SegmentId} :
    s ∈ (l.add id).valid ↔ s = id ∨ s ∈ l.valid := by
  rw [add]
  split
  · next h => exact ⟨Or.inr, fun hs => hs.elim (fun he => he ▸ h) (fun hs => hs)⟩
  · simp [or_comm]

theorem mem_valid_invalidate {l : SegmentList} {id s : SegmentId} :
    s ∈ (l.invalidate id).2.valid ↔ s ∈ l.valid ∧ s ≠ id := by
  simp [invalidate]

theorem invalidate_fst {l : SegmentList} {id : SegmentId} :
    (l.invalidate id).1 = true ↔ id ∈ l.valid := by
  simp [invalidate, List.length_filter_eq_length_iff]

end SegmentList
end IndexShards
