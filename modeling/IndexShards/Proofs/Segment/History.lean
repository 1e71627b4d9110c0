import IndexShards.Proofs.Runs
import IndexShards.Segment.Status
import Mathlib.Data.List.Induction

/-!
# What a list of valid segments remembers

Segments become valid and invalid, and become valid again.  The list that is kept of them may repeat
some at first; later no repetitions come to it, and a segment that is made invalid leaves it with
all its copies.  So which segments it has, how often and in which order can be told from the calls:
of each segment the last call counts, and the first list as long as the segment was never made
invalid.

## What is here

* `SegmentList.Call`, `SegmentList.perform` — the calls that change a list, as data; `after` — the
  list that they lead to.
* `lastCallOn`, `Stands` — the last call on a segment, and **which segments are valid after calls**.
* `BecomesValid`, `LastBecomesValid` — a call that makes a segment valid that was not, and the last
  one that does.
* `Recounts` — a list has the first segments that were never made invalid, in their order, and then
  others, in the order in which they became valid; `recounts_after` — **the list after calls is such
  a list**.
* `Covers` — a list is one of this table, or of any.
* `validFor_tells_history` — **what a listing after calls has in it, and what the calls answered**.
-/

set_option autoImplicit false

namespace IndexShards
namespace SegmentList

/-! ## Calls -/

/-- A call that changes a list. -/
inductive Call where
  | add (id : SegmentId)
  | invalidate (id : SegmentId)
deriving DecidableEq

/-- The segment that a call is about. -/
def Call.segment : Call → SegmentId
  | add id => id
  | invalidate id => id

/-- Makes a call.  Only the one that makes a segment invalid has an answer. -/
def perform (l : SegmentList) : Call → Option Bool × SegmentList
  | .add id => (none, l.add id)
  | .invalidate id => (some (l.invalidate id).1, (l.invalidate id).2)

/-- The list after calls. -/
def after (l : SegmentList) (calls : List Call) : SegmentList := (runCalls perform l calls).2

theorem after_append_singleton (l : SegmentList) (calls : List Call) (c : Call) :
    l.after (calls ++ [c]) = ((l.after calls).perform c).2 := by
  rw [after, runCalls_append]
  rfl

/-! ## Which segments are valid -/

/-- The last call on a segment. -/
def lastCallOn (calls : List Call) (id : SegmentId) : Option Call :=
  (calls.filter fun c => c.segment = id).getLast?

/-- The segment is valid after the calls: the last call on it made it valid, or none made it invalid
and it is in the first list. -/
def Stands (first : List SegmentId) (calls : List Call) (id : SegmentId) : Prop :=
  lastCallOn calls id = some (.add id) ∨ Call.invalidate id ∉ calls ∧ id ∈ first

variable {first : List SegmentId} {calls : List Call} {l : SegmentList} {id x : SegmentId} {i : ℕ}

theorem lastCallOn_append_singleton (calls : List Call) (c : Call) (id : SegmentId) :
    lastCallOn (calls ++ [c]) id = if c.segment = id then some c else lastCallOn calls id := by
  rw [lastCallOn, List.filter_append]
  split
  · next h => simp [h]
  · next h => simp [h, lastCallOn]

theorem stands_append_add :
    Stands first (calls ++ [.add id]) x ↔ x = id ∨ Stands first calls x := by
  rw [Stands, lastCallOn_append_singleton]
  by_cases hx : x = id
  · simp [Call.segment, hx]
  · simp [Call.segment, hx, Ne.symm hx, Stands]

theorem stands_append_invalidate :
    Stands first (calls ++ [.invalidate id]) x ↔ Stands first calls x ∧ x ≠ id := by
  rw [Stands, lastCallOn_append_singleton]
  by_cases hx : x = id
  · simp [Call.segment, hx]
  · simp [Call.segment, hx, Ne.symm hx, Stands]

/-! ## When a segment became valid -/

/-- The call at this position makes a segment valid that was not. -/
def BecomesValid (first : List SegmentId) (calls : List Call) (i : ℕ) (id : SegmentId) : Prop :=
  ¬Stands first (calls.take i) id ∧ Stands first (calls.take (i + 1)) id

/-- The call at this position is the last one that makes the segment valid when it was not. -/
def LastBecomesValid (first : List SegmentId) (calls : List Call) (i : ℕ) (id : SegmentId) : Prop :=
  BecomesValid first calls i id ∧ ∀ j, BecomesValid first calls j id → j ≤ i

/-- One segment became valid before another one did, each for the last time. -/
def ValidBefore (first : List SegmentId) (calls : List Call) (a b : SegmentId) : Prop :=
  ∃ i j, i < j ∧ LastBecomesValid first calls i a ∧ LastBecomesValid first calls j b

theorem BecomesValid.lt_length (h : BecomesValid first calls i x) : i < calls.length := by
  by_contra hi
  have hle : calls.length ≤ i := Nat.le_of_not_lt hi
  rw [BecomesValid, List.take_of_length_le hle, List.take_of_length_le (Nat.le_succ_of_le hle)] at h
  exact h.1 h.2

/-- What the calls before it made of a segment does not depend on a further call. -/
theorem becomesValid_append_singleton (hi : i < calls.length) (c : Call) (x : SegmentId) :
    BecomesValid first (calls ++ [c]) i x ↔ BecomesValid first calls i x := by
  rw [BecomesValid, BecomesValid, List.take_append_of_le_length (Nat.le_of_lt hi),
    List.take_append_of_le_length hi]

theorem becomesValid_length (calls : List Call) (c : Call) (x : SegmentId) :
    BecomesValid first (calls ++ [c]) calls.length x ↔
      ¬Stands first calls x ∧ Stands first (calls ++ [c]) x := by
  rw [BecomesValid, List.take_left, List.take_of_length_le (by simp)]

theorem LastBecomesValid.append_singleton (h : LastBecomesValid first calls i x)
    (hx : Stands first calls x) (c : Call) : LastBecomesValid first (calls ++ [c]) i x := by
  refine ⟨(becomesValid_append_singleton h.1.lt_length c x).2 h.1, fun j hj => ?_⟩
  have hlength : j < calls.length + 1 := by simpa using hj.lt_length
  obtain hlt | rfl := Nat.lt_succ_iff_lt_or_eq.1 hlength
  · exact h.2 j ((becomesValid_append_singleton hlt c x).1 hj)
  · exact absurd hx ((becomesValid_length calls c x).1 hj).1

theorem lastBecomesValid_length {c : Call} (hx : ¬Stands first calls x)
    (hx' : Stands first (calls ++ [c]) x) :
    LastBecomesValid first (calls ++ [c]) calls.length x := by
  refine ⟨(becomesValid_length calls c x).2 ⟨hx, hx'⟩, fun j hj => ?_⟩
  exact Nat.le_of_lt_succ (by simpa using hj.lt_length)

theorem LastBecomesValid.unique {j : ℕ} (hi : LastBecomesValid first calls i x)
    (hj : LastBecomesValid first calls j x) : i = j :=
  Nat.le_antisymm (hj.2 i hi.1) (hi.2 j hj.1)

theorem ValidBefore.append_singleton {a b : SegmentId} (h : ValidBefore first calls a b)
    (ha : Stands first calls a) (hb : Stands first calls b) (c : Call) :
    ValidBefore first (calls ++ [c]) a b := by
  obtain ⟨i, j, hij, hi, hj⟩ := h
  exact ⟨i, j, hij, hi.append_singleton ha c, hj.append_singleton hb c⟩

theorem ValidBefore.ne {a b : SegmentId} (h : ValidBefore first calls a b) : a ≠ b := by
  rintro rfl
  obtain ⟨i, j, hij, hi, hj⟩ := h
  exact Nat.ne_of_lt hij (hi.unique hj)

/-! ## The list -/

/-- The list is what the calls made of the first list: it has the first segments that were never
made invalid, in their order and with their repetitions, and behind them `later`, the others that
are valid, in the order in which they last became valid. -/
structure Recounts (first : List SegmentId) (calls : List Call) (listed later : List SegmentId) :
    Prop where
  mem_iff : ∀ id, id ∈ listed ↔ Stands first calls id
  eq_append : listed = first.filter (fun id => Call.invalidate id ∉ calls) ++ later
  other : ∀ id ∈ later, id ∈ first → Call.invalidate id ∈ calls
  timed : ∀ id ∈ later, ∃ i, LastBecomesValid first calls i id
  ordered : later.Pairwise (ValidBefore first calls)

namespace Recounts

variable {listed later : List SegmentId}

theorem stands (h : Recounts first calls listed later) (hx : x ∈ later) : Stands first calls x := by
  rw [← h.mem_iff, h.eq_append]
  exact List.mem_append_right _ hx

theorem timed_append (h : Recounts first calls listed later) (c : Call) (hx : x ∈ later) :
    ∃ i, LastBecomesValid first (calls ++ [c]) i x := by
  obtain ⟨i, hi⟩ := h.timed x hx
  exact ⟨i, hi.append_singleton (h.stands hx) c⟩

theorem ordered_append (h : Recounts first calls listed later) (c : Call) :
    later.Pairwise (ValidBefore first (calls ++ [c])) :=
  h.ordered.imp_of_mem fun ha hb hab => hab.append_singleton (h.stands ha) (h.stands hb) c

/-- A list is what no calls make of it. -/
theorem nil (first : List SegmentId) : Recounts first [] first [] where
  mem_iff id := by simp [Stands, lastCallOn]
  eq_append := by rw [List.append_nil, List.filter_eq_self.2 (by simp)]
  other id hid := absurd hid List.not_mem_nil
  timed id hid := absurd hid List.not_mem_nil
  ordered := .nil

/-- **What making a segment valid does to the list.**  One that is not in it comes last. -/
theorem add (h : Recounts first calls l.valid later) (id : SegmentId) :
    Recounts first (calls ++ [.add id]) (l.add id).valid
      (if id ∈ l.valid then later else later ++ [id]) := by
  have hkept : first.filter (fun x => Call.invalidate x ∉ calls ++ [.add id]) =
      first.filter fun x => Call.invalidate x ∉ calls := by simp
  have hmem : ∀ x, x ∈ (l.add id).valid ↔ Stands first (calls ++ [.add id]) x := by
    intro x
    rw [mem_valid_add, stands_append_add, h.mem_iff]
  have hother : ∀ x ∈ later, x ∈ first → Call.invalidate x ∈ calls ++ [.add id] :=
    fun x hx hfirst => List.mem_append_left _ (h.other x hx hfirst)
  split
  · next hid =>
    refine ⟨hmem, ?_, hother, fun x hx => h.timed_append _ hx, h.ordered_append _⟩
    rw [hkept, SegmentList.add, if_pos hid]
    exact h.eq_append
  · next hid =>
    have hnew : ¬Stands first calls id := fun hstands => hid ((h.mem_iff id).2 hstands)
    have hlast : LastBecomesValid first (calls ++ [.add id]) calls.length id :=
      lastBecomesValid_length hnew (stands_append_add.2 (Or.inl rfl))
    refine ⟨hmem, ?_, ?_, ?_, ?_⟩
    · rw [hkept, SegmentList.add, if_neg hid, ← List.append_assoc, ← h.eq_append]
    · rw [List.forall_mem_append, List.forall_mem_singleton]
      refine ⟨hother, fun hfirst => List.mem_append_left _ ?_⟩
      by_contra hnever
      exact hnew (Or.inr ⟨hnever, hfirst⟩)
    · rw [List.forall_mem_append, List.forall_mem_singleton]
      exact ⟨fun x hx => h.timed_append _ hx, _, hlast⟩
    · refine List.pairwise_append.2 ⟨h.ordered_append _, List.pairwise_singleton _ _, ?_⟩
      intro x hx y hy
      obtain rfl := List.mem_singleton.1 hy
      obtain ⟨i, hi⟩ := h.timed x hx
      exact ⟨i, _, hi.1.lt_length, hi.append_singleton (h.stands hx) _, hlast⟩

/-- **What making a segment invalid does to the list.**  It leaves no copy and keeps the others. -/
theorem invalidate (h : Recounts first calls l.valid later) (id : SegmentId) :
    Recounts first (calls ++ [.invalidate id]) (l.invalidate id).2.valid
      (later.filter fun x => x != id) where
  mem_iff x := by rw [mem_valid_invalidate, stands_append_invalidate, h.mem_iff]
  eq_append := by
    have hvalid : (l.invalidate id).2.valid = l.valid.filter fun x => x != id := rfl
    rw [hvalid, h.eq_append, List.filter_append, List.filter_filter]
    refine congrArg (· ++ later.filter fun x => x != id) (List.filter_congr fun x _ => ?_)
    by_cases hx : x = id <;> simp [hx]
  other x hx hfirst := List.mem_append_left _ (h.other x (List.mem_filter.1 hx).1 hfirst)
  timed x hx := h.timed_append _ (List.mem_filter.1 hx).1
  ordered := (h.ordered_append _).filter _

/-- A first segment that was never made invalid is in the list as often as at first. -/
theorem count_eq (h : Recounts first calls listed later) (hfirst : id ∈ first)
    (hnever : Call.invalidate id ∉ calls) : listed.count id = first.count id := by
  have hlater : id ∉ later := fun hmem => hnever (h.other id hmem hfirst)
  rw [h.eq_append, List.count_append, List.count_eq_zero.2 hlater, Nat.add_zero]
  exact List.count_filter (by simpa using hnever)

/-- Any other segment is in the list once at most. -/
theorem count_le_one (h : Recounts first calls listed later)
    (hother : id ∉ first ∨ Call.invalidate id ∈ calls) : listed.count id ≤ 1 := by
  have hkept : id ∉ first.filter fun x => Call.invalidate x ∉ calls := by
    rw [List.mem_filter, decide_eq_true_iff, not_and_or, not_not]
    exact hother
  have hnodup : later.Nodup := h.ordered.imp ValidBefore.ne
  rw [h.eq_append, List.count_append, List.count_eq_zero.2 hkept, Nat.zero_add]
  exact List.nodup_iff_count.1 hnodup id

end Recounts

theorem recounts_perform {later : List SegmentId} (h : Recounts first calls l.valid later)
    (c : Call) : ∃ later', Recounts first (calls ++ [c]) (l.perform c).2.valid later' := by
  cases c with
  | add id => exact ⟨_, h.add id⟩
  | invalidate id => exact ⟨_, h.invalidate id⟩

/-- **The list after calls is what they made of the first list.** -/
theorem recounts_after (l : SegmentList) (calls : List Call) :
    ∃ later, Recounts l.valid calls (l.after calls).valid later := by
  induction calls using List.reverseRecOn with
  | nil => exact ⟨_, Recounts.nil l.valid⟩
  | append_singleton calls c ih =>
    obtain ⟨later, h⟩ := ih
    rw [after_append_singleton]
    exact recounts_perform h c

/-! ## Listings and answers -/

theorem table?_after (l : SegmentList) (calls : List Call) : (l.after calls).table? = l.table? := by
  refine runCalls_induction (P := fun s : SegmentList => s.table? = l.table?) rfl ?_ calls
  intro s c hs
  cases c with
  | add id =>
    rw [← hs, perform, add]
    split <;> rfl
  | invalidate id => exact hs

/-- The list is one of this table, or of whichever table is asked for. -/
def Covers (l : SegmentList) (table : TableId) : Prop :=
  l.table? = none ∨ l.table? = some table.name

variable {table : TableId}

theorem validFor_after (h : l.Covers table) (calls : List Call) :
    (l.after calls).validFor table = .ok (l.after calls).valid := by
  rw [validFor, table?_after]
  obtain hnone | hname := h
  · rw [hnone]
  · simp only [hname, if_true]

/-- **A listing tells the history of every segment.**  A segment is listed if the last call on it
made it valid, or if none made it invalid and it was in the list at first.  It is listed once at
most; but as often as at first, if it was there and was never made invalid.  These come first, in
their order, and then the others in the order in which they last became valid.  A call that makes a
segment invalid says whether a listing just before it had the segment; one just after has not. -/
theorem validFor_tells_history (h : l.Covers table) (calls : List Call) :
    (∃ listed later, (l.after calls).validFor table = .ok listed ∧
      Recounts l.valid calls listed later ∧
      (∀ id ∈ l.valid, Call.invalidate id ∉ calls → listed.count id = l.valid.count id) ∧
      ∀ id, id ∉ l.valid ∨ Call.invalidate id ∈ calls → listed.count id ≤ 1) ∧
    ∀ before id rest, calls = before ++ .invalidate id :: rest →
      ∃ was listed left, (runCalls perform l calls).1[before.length]? = some (some was) ∧
        (l.after before).validFor table = .ok listed ∧ (was = true ↔ id ∈ listed) ∧
        (l.after (before ++ [.invalidate id])).validFor table = .ok left ∧ id ∉ left := by
  constructor
  · obtain ⟨later, hrecounts⟩ := recounts_after l calls
    exact ⟨_, later, validFor_after h calls, hrecounts, fun id => hrecounts.count_eq,
      fun id => hrecounts.count_le_one⟩
  · rintro before id rest rfl
    refine ⟨_, _, _, getElem?_runCalls perform l before rest _, validFor_after h before,
      invalidate_fst, validFor_after h _, ?_⟩
    rw [after_append_singleton]
    exact fun hleft => (mem_valid_invalidate.1 hleft).2 rfl

/-- The first list repeats two segments.  One of them is made invalid and valid again, and so stands
behind a new one; the other one keeps its copies. -/
theorem validFor_tells_history_of_repeated :
    let l : SegmentList := ⟨[⟨"0"⟩, ⟨"1"⟩, ⟨"0"⟩, ⟨"1"⟩], some "t"⟩
    let table : TableId := ⟨"t", ⟨"/t"⟩⟩
    let calls : List Call :=
      [.add ⟨"2"⟩, .add ⟨"1"⟩, .invalidate ⟨"0"⟩, .invalidate ⟨"0"⟩, .add ⟨"0"⟩]
    l.Covers table ∧
      (l.after calls).validFor table = .ok [⟨"1"⟩, ⟨"1"⟩, ⟨"2"⟩, ⟨"0"⟩] ∧
      (∃ later, Recounts l.valid calls [⟨"1"⟩, ⟨"1"⟩, ⟨"2"⟩, ⟨"0"⟩] later) ∧
      (runCalls perform l calls).1 = [none, none, some true, some false, none] := by
  intro l table calls
  have hcovers : l.Covers table := Or.inr rfl
  have hlisted : (l.after calls).validFor table = .ok [⟨"1"⟩, ⟨"1"⟩, ⟨"2"⟩, ⟨"0"⟩] := by decide
  obtain ⟨listed, later, heq, hrecounts, -⟩ := (validFor_tells_history hcovers calls).1
  cases hlisted.symm.trans heq
  exact ⟨hcovers, hlisted, ⟨later, hrecounts⟩, by decide⟩

end SegmentList
end IndexShards
