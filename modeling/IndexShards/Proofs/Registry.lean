import IndexShards.Proofs.Runs
import IndexShards.Registry
import Mathlib.Data.List.Induction
import Mathlib.Data.List.Nodup

/-!
# Every table has a list of its own

A registry keeps the indexes of all tables in one map.  It opens a list before it looks at it,
drops a list when it has become empty, and finds a table by its name and the parts of its path.  To
a host it looks as if every table had a list of its own, which is always there, and to which only
the calls on that table matter.

## What is here

* `Registry.Call`, `Registry.perform` — the calls that change a registry, as data; `reached` — the
  registry that they lead to.
* `listAfter`, `answerOn` — what a call does to the list of its own table, and what it answers.
* `indexesOf_perform`, `perform_fst` — **one call on the registry is that call on one list**.
* `Stocked` — no stored list is empty, and names do not repeat; every call keeps it.
* `reached_exact` — **a run on the registry is, for every table, the run of its own calls on its
  own list**.
-/

set_option autoImplicit false

namespace IndexShards
namespace Registry

open Std

variable {r : Registry} {s t : TableId}

/-! ## Calls -/

/-- A call that changes a registry. -/
inductive Call where
  | register (table : TableId) (index : Registration)
  | unregister (table : TableId) (indexName : String)

/-- The table that a call is about. -/
def Call.table : Call → TableId
  | register table _ => table
  | unregister table _ => table

/-- The answer to a call. -/
inductive Answer where
  | registered (answer : Except Error Unit)
  /-- The index was there, or not. -/
  | unregistered (was : Bool)
deriving DecidableEq

/-- Makes a call. -/
def perform (r : Registry) : Call → Answer × Registry
  | .register table index =>
    (.registered (r.registerIn table index).1, (r.registerIn table index).2)
  | .unregister table indexName =>
    (.unregistered (r.unregister table indexName).1, (r.unregister table indexName).2)

/-- The registry after calls on the empty one. -/
def reached (calls : List Call) : Registry := (runCalls perform .empty calls).2

/-! ## One list -/

/-- The names of the indexes in a list. -/
def names (l : List Registration) : List String := l.map Registration.indexName

/-- The list of a table, after a call on this table. -/
def listAfter (l : List Registration) : Call → List Registration
  | .register _ index => if index.indexName ∈ names l then l else l ++ [index]
  | .unregister _ indexName => l.filter fun i => i.indexName != indexName

/-- The answer to a call on the table that has this list. -/
def answerOn (l : List Registration) : Call → Answer
  | .register table index =>
    .registered (if index.indexName ∈ names l then
      .error (.invalidArgument (.indexExists index.indexName table.name)) else .ok ())
  | .unregister _ indexName => .unregistered (decide (indexName ∈ names l))

/-- The list of a table after those of the calls that are about it. -/
def listOf (calls : List Call) (table : TableId) : List Registration :=
  (calls.filter fun c => decide (c.table ≈ table)).foldl listAfter []

theorem any_indexName_iff {l : List Registration} {n : String} :
    (l.any fun i => i.indexName == n) = true ↔ n ∈ names l := by
  simp [names]

theorem nodup_names_listAfter {l : List Registration} (h : (names l).Nodup) (c : Call) :
    (names (listAfter l c)).Nodup := by
  cases c with
  | register table index =>
    rw [listAfter]
    split
    · exact h
    · next hnew =>
      rw [names, List.map_append, List.nodup_append]
      refine ⟨h, List.nodup_singleton _, fun a ha b hb => ?_⟩
      rw [List.map_singleton, List.mem_singleton] at hb
      rintro rfl
      exact hnew (hb ▸ ha)
  | unregister table n => exact h.sublist (List.filter_sublist.map _)

/-! ## One call -/

theorem indexesOf_congr (r : Registry) (h : s ≈ t) : r.indexesOf s = r.indexesOf t := by
  rw [indexesOf, indexesOf, ExtTreeMap.getElem?_congr (TableId.cmp_eq_iff.2 h)]

/-- Opening a list is not seen from outside. -/
theorem indexesOf_opened (r : Registry) (s t : TableId) :
    (r.opened s).indexesOf t = r.indexesOf t := by
  rw [indexesOf, opened, ExtTreeMap.getElem?_insertIfNew, indexesOf]
  split
  · next h =>
    have hmissing : r.tables[t]? = none := by
      rw [← ExtTreeMap.getElem?_congr h.1, ← Option.not_isSome_iff_eq_none,
        ← ExtTreeMap.mem_iff_isSome_getElem?]
      exact h.2
    rw [hmissing]
    rfl
  · rfl

/-- Of a table whose list was stored already, opening it changes nothing. -/
theorem tables_opened (h : r.indexesOf s ≠ []) (t : TableId) :
    (r.opened s).tables[t]? = r.tables[t]? := by
  have hmem : s ∈ r.tables := by
    rw [ExtTreeMap.mem_iff_isSome_getElem?, Option.isSome_iff_ne_none]
    intro hnone
    rw [indexesOf, hnone] at h
    exact h rfl
  rw [opened, ExtTreeMap.getElem?_insertIfNew, if_neg fun hnew => hnew.2 hmem]

/-- A registration is refused if the name is taken, and the registry is left with the list
opened; else the index is added at the end of the list. -/
theorem registerIn_eq (r : Registry) (table : TableId) (index : Registration) :
    r.registerIn table index = if index.indexName ∈ names (r.indexesOf table) then
      (.error (.invalidArgument (.indexExists index.indexName table.name)), r.opened table)
    else (.ok (), ⟨(r.opened table).tables.insert table (r.indexesOf table ++ [index])⟩) := by
  rw [registerIn]
  simp only [indexesOf_opened, any_indexName_iff]

/-- What is stored of a list: of an empty one nothing. -/
def stored (l : List Registration) : Option (List Registration) := if l = [] then none else some l

theorem stored_ne (l : List Registration) : stored l ≠ some [] := by
  rw [stored]
  split
  · exact nofun
  · next h => exact fun he => h (Option.some.inj he)

theorem getD_stored (l : List Registration) : (stored l).getD [] = l := by
  rw [stored]
  split
  · next h => exact h.symm
  · rfl

/-- An index is taken from the list of its table, and a list that is empty then is dropped. -/
theorem tables_unregister (r : Registry) (table : TableId) (n : String) (t : TableId) :
    (r.unregister table n).2.tables[t]? = if table ≈ t then
      stored ((r.indexesOf t).filter fun i => i.indexName != n) else r.tables[t]? := by
  by_cases heq : table ≈ t
  · have hcmp : table.cmp t = .eq := TableId.cmp_eq_iff.2 heq
    rw [if_pos heq, ← indexesOf_congr r heq, unregister, indexesOf]
    cases h : r.tables[table]? with
    | none =>
      rw [← ExtTreeMap.getElem?_congr hcmp, h]
      rfl
    | some l =>
      simp only [Option.getD_some, stored, List.isEmpty_iff]
      split
      · rw [ExtTreeMap.getElem?_erase, if_pos hcmp]
      · rw [ExtTreeMap.getElem?_insert, if_pos hcmp]
  · have hcmp : ¬table.cmp t = .eq := fun h => heq (TableId.cmp_eq_iff.1 h)
    rw [if_neg heq, unregister]
    cases r.tables[table]? with
    | none => rfl
    | some l =>
      simp only [List.isEmpty_iff]
      split
      · rw [ExtTreeMap.getElem?_erase, if_neg hcmp]
      · rw [ExtTreeMap.getElem?_insert, if_neg hcmp]

/-- **A call changes the list of its own table, and no other.** -/
theorem indexesOf_perform (r : Registry) (c : Call) (t : TableId) :
    (r.perform c).2.indexesOf t =
      if c.table ≈ t then listAfter (r.indexesOf t) c else r.indexesOf t := by
  cases c with
  | register table index =>
    rw [perform, registerIn_eq, Call.table, listAfter]
    by_cases heq : table ≈ t
    · rw [if_pos heq, ← indexesOf_congr r heq]
      split
      · rw [← indexesOf_congr _ heq, indexesOf_opened]
      · rw [indexesOf, ExtTreeMap.getElem?_insert, if_pos (TableId.cmp_eq_iff.2 heq)]
        rfl
    · rw [if_neg heq]
      split
      · exact indexesOf_opened r table t
      · rw [indexesOf, ExtTreeMap.getElem?_insert, if_neg fun h => heq (TableId.cmp_eq_iff.1 h)]
        exact indexesOf_opened r table t
  | unregister table n =>
    rw [perform, Call.table, listAfter, indexesOf, tables_unregister]
    split
    · exact getD_stored _
    · rfl

/-- **The answer to a call is read off the list of its table.** -/
theorem perform_fst (r : Registry) (c : Call) :
    (r.perform c).1 = answerOn (r.indexesOf c.table) c := by
  cases c with
  | register table index =>
    rw [perform, registerIn_eq, answerOn, Call.table]
    split <;> rfl
  | unregister table n =>
    rw [perform, unregister, answerOn, Call.table, indexesOf]
    cases r.tables[table]? with
    | none => rfl
    | some l =>
      have hwas : ((l.filter fun i => i.indexName != n).length != l.length) =
          decide (n ∈ names l) := by
        rw [Bool.eq_iff_iff, bne_iff_ne, Ne, List.length_filter_eq_length_iff]
        simp [names]
      exact congrArg Answer.unregistered hwas

/-! ## What holds in every state -/

/-- No stored list is empty, and the names in a list are all different. -/
structure Stocked (r : Registry) : Prop where
  tables_ne : ∀ t : TableId, r.tables[t]? ≠ some []
  nodup : ∀ t, (names (r.indexesOf t)).Nodup

theorem stocked_empty : Stocked .empty := by
  have hnone : ∀ t : TableId, Registry.empty.tables[t]? = none := fun t => ExtTreeMap.getElem?_empty
  refine ⟨fun t => ?_, fun t => ?_⟩
  · rw [hnone]
    exact nofun
  · rw [indexesOf, hnone]
    exact List.nodup_nil

/-- No call leaves an empty list behind: a list that was opened for nothing was not empty. -/
theorem Stocked.perform (h : Stocked r) (c : Call) : Stocked (r.perform c).2 := by
  refine ⟨fun t => ?_, fun t => ?_⟩
  · cases c with
    | register table index =>
      rw [Registry.perform, registerIn_eq]
      split
      · next htaken =>
        have hne : r.indexesOf table ≠ [] := fun hnil => by
          rw [hnil] at htaken
          exact List.not_mem_nil htaken
        rw [tables_opened hne]
        exact h.tables_ne t
      · rw [ExtTreeMap.getElem?_insert]
        split
        · simp
        · next hne =>
          rw [opened, ExtTreeMap.getElem?_insertIfNew, if_neg fun hnew => hne hnew.1]
          exact h.tables_ne t
    | unregister table n =>
      rw [Registry.perform, tables_unregister]
      split
      · exact stored_ne _
      · exact h.tables_ne t
  · rw [indexesOf_perform]
    split
    · exact nodup_names_listAfter (h.nodup t) c
    · exact h.nodup t

/-! ## Runs -/

theorem reached_append (before : List Call) (c : Call) :
    reached (before ++ [c]) = ((reached before).perform c).2 := by
  rw [reached, runCalls_append]
  rfl

/-- The list of a table is the one that its own calls lead to. -/
theorem indexesOf_reached (calls : List Call) (t : TableId) :
    (reached calls).indexesOf t = listOf calls t := by
  induction calls using List.reverseRecOn with
  | nil => exact congrArg (Option.getD · []) ExtTreeMap.getElem?_empty
  | append_singleton calls c ih =>
    rw [reached_append, indexesOf_perform, ih, listOf, listOf, List.filter_append,
      List.foldl_append]
    by_cases h : c.table ≈ t <;> simp [h]

theorem stocked_reached (calls : List Call) : Stocked (reached calls) :=
  runCalls_induction stocked_empty (fun _ c h => h.perform c) calls

/-- A registration is only ever refused as an invalid argument, and then the list stays. -/
theorem answerOn_eq_error {l : List Registration} {c : Call} {e : Error}
    (h : answerOn l c = .registered (.error e)) :
    (∃ cause, e = .invalidArgument cause) ∧ listAfter l c = l := by
  cases c with
  | register table index =>
    rw [answerOn] at h
    split at h
    · next htaken =>
      cases h
      exact ⟨⟨_, rfl⟩, if_pos htaken⟩
    · cases h
  | unregister table n => cases h

/-- **A run on the registry is, for every table, the run of its own calls on its own list.**  The
list of a table is what the calls on this table lead to, however the path of the table is spelled in
them; its names are all different, it is counted right, and it is not stored if it is empty.  Each
call is answered from the list of its table as it is at its turn.  A refused registration is an
invalid argument and leaves the list of every table as it was, and every call leaves the lists of
the other tables as they were. -/
theorem reached_exact (calls : List Call) :
    (∀ t, (reached calls).indexesOf t = listOf calls t ∧ (names (listOf calls t)).Nodup ∧
      (reached calls).indexCount t = (listOf calls t).length ∧
      (reached calls).tables[t]? ≠ some []) ∧
    ∀ before c after, calls = before ++ c :: after →
      (runCalls perform .empty calls).1[before.length]? =
        some (answerOn (listOf before c.table) c) ∧
      (∀ e, answerOn (listOf before c.table) c = .registered (.error e) →
        (∃ cause, e = .invalidArgument cause) ∧
          ∀ t, (reached (before ++ [c])).indexesOf t = (reached before).indexesOf t) ∧
      ∀ t, ¬c.table ≈ t →
        (reached (before ++ [c])).indexesOf t = (reached before).indexesOf t := by
  refine ⟨fun t => ?_, fun before c after hcalls => ⟨?_, fun e he => ?_, fun t hother => ?_⟩⟩
  · have hstocked := stocked_reached calls
    have hlist := indexesOf_reached calls t
    refine ⟨hlist, hlist ▸ hstocked.nodup t, ?_, hstocked.tables_ne t⟩
    rw [← hlist, indexCount, indexesOf]
    cases (reached calls).tables[t]? <;> rfl
  · rw [hcalls, getElem?_runCalls, perform_fst, ← indexesOf_reached]
    rfl
  · obtain ⟨hcause, hsame⟩ := answerOn_eq_error he
    refine ⟨hcause, fun t => ?_⟩
    rw [reached_append, indexesOf_perform]
    split
    · next h =>
      rw [← indexesOf_reached, indexesOf_congr _ h] at hsame
      exact hsame
    · rfl
  · rw [reached_append, indexesOf_perform, if_neg hother]

/-- One table under two spellings of its path, and another one of the same name: the second
registration is refused, and when the index is taken off the one table it stays with the other. -/
theorem reached_exact_of_spellings :
    let orders : TableId := ⟨"orders", ⟨"/prod/orders"⟩⟩
    let same : TableId := ⟨"orders", ⟨"/prod//orders/."⟩⟩
    let staging : TableId := ⟨"orders", ⟨"/staging/orders"⟩⟩
    let first : List Call := [.register orders (.text "a"), .register staging (.text "a")]
    let calls := first ++ [.register same ⟨"a", "bloom"⟩, .unregister same "a"]
    (runCalls perform .empty calls).1[2]? = some (.registered
        (.error (.invalidArgument (.indexExists "a" "orders")))) ∧
      (reached calls).indexesOf orders = [] ∧ (reached calls).indexesOf staging = [.text "a"] := by
  intro orders same staging first calls
  have hexact := reached_exact calls
  have hanswer := (hexact.2 first (.register same ⟨"a", "bloom"⟩) [.unregister same "a"] rfl).1
  refine ⟨hanswer.trans ?_, (hexact.1 orders).1.trans ?_, (hexact.1 staging).1.trans ?_⟩
  · decide +kernel
  · decide +kernel
  · decide +kernel

end Registry
end IndexShards
