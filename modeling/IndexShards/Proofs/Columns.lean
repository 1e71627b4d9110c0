import IndexShards.Definition.Columns
import Mathlib.Order.Bounds.Basic

/-!
# Which fault of a column list is reported

A list of columns can have many faults at once, and only one of them is reported.  The list is gone
through twice.  The first time, an entry is at fault if it is empty or if it stands in the list
again further on, and these two are not looked for one after the other but at each entry in turn; so
`name,name,` is reported for the repeated name and `,name,name` for the empty entry.  The second
time, an entry is at fault if it is no column that holds text.  Each time the first entry at fault
counts, and the second time comes only if there is none the first time.

## What is here

* `scan_eq_error_iff` — what is common to the two: a list that is gone through from the front fails
  at the least position that is at fault.
* `Misspelled`, `EntryFault` and `Unfit`, `ColumnFault` — the positions at fault, and what is
  reported for an entry.
* `checkSpelling_eq_error_iff`, `checkCatalog_eq_error_iff` — the two checks.
* `Verdict` — what is to be answered.
* `validateColumns_eq_iff_verdict` — **the verdict is the answer**.
-/

set_option autoImplicit false

namespace IndexShards

open Std Text

/-! ## Going through a list -/

section Scan

variable {α ε : Type} {test : α → List α → Except ε Unit}

/-- The item at position `i` does not pass the test, which also sees what comes behind the item. -/
def FailsAt (test : α → List α → Except ε Unit) (l : List α) (i : Nat) : Prop :=
  ∃ a, l[i]? = some a ∧ test a (l.drop (i + 1)) ≠ .ok ()

theorem failsAt_zero {a : α} {l : List α} : FailsAt test (a :: l) 0 ↔ test a l ≠ .ok () := by
  simp [FailsAt]

theorem failsAt_succ {a : α} {l : List α} {i : Nat} :
    FailsAt test (a :: l) (i + 1) ↔ FailsAt test l i := by
  simp [FailsAt]

/-- If a property does not hold at zero, its least position is one further on. -/
theorem isLeast_succ_iff {P : Nat → Prop} (h : ¬P 0) {i : Nat} :
    IsLeast {i | P i} (i + 1) ↔ IsLeast {i | P (i + 1)} i := by
  constructor
  · rintro ⟨hi, hleast⟩
    refine ⟨hi, ?_⟩
    intro j hj
    exact Nat.le_of_succ_le_succ (hleast hj)
  · rintro ⟨hi, hleast⟩
    refine ⟨hi, ?_⟩
    rintro (_ | j) hj
    · exact absurd hj h
    · exact Nat.succ_le_succ (hleast hj)

/-- **Whatever goes through a list from the front fails at the least position that is at fault**,
and for the reason that the test gives there. -/
theorem scan_eq_error_iff (test : α → List α → Except ε Unit) {f : List α → Except ε Unit}
    (hnil : f [] = .ok ()) (hcons : ∀ a l, f (a :: l) = (test a l).bind fun _ => f l)
    {l : List α} {e : ε} :
    f l = .error e ↔ ∃ i a, IsLeast {i | FailsAt test l i} i ∧ l[i]? = some a ∧
      test a (l.drop (i + 1)) = .error e := by
  induction l with
  | nil => simp [hnil]
  | cons a l ih =>
    rw [hcons]
    cases ht : test a l with
    | error e' =>
      have hzero : FailsAt test (a :: l) 0 := by simp [failsAt_zero, ht]
      constructor
      · intro h
        cases h
        exact ⟨0, a, ⟨hzero, fun _ _ => Nat.zero_le _⟩, rfl, ht⟩
      · rintro ⟨i, b, ⟨-, hleast⟩, hb, hte⟩
        obtain rfl : i = 0 := Nat.le_zero.1 (hleast hzero)
        cases hb
        exact ht.symm.trans hte
    | ok u =>
      have hzero : ¬FailsAt test (a :: l) 0 := by simp [failsAt_zero, ht]
      have hshift : ∀ i, IsLeast {i | FailsAt test (a :: l) i} (i + 1) ↔
          IsLeast {i | FailsAt test l i} i := by
        intro i
        simp only [isLeast_succ_iff hzero, failsAt_succ]
      refine ih.trans ⟨?_, ?_⟩
      · rintro ⟨i, b, hi, hb, hte⟩
        exact ⟨i + 1, b, (hshift i).2 hi, hb, hte⟩
      · rintro ⟨_ | i, b, hi, hb, hte⟩
        · exact absurd hi.1 hzero
        · exact ⟨i, b, (hshift i).1 hi, hb, hte⟩

end Scan

/-! ## Entries -/

/-- The entry at position `i` is empty, or stands in the list again further on. -/
def Misspelled (cs : List String) (i : Nat) : Prop :=
  ∃ c, cs[i]? = some c ∧ (c = "" ∨ c ∈ cs.drop (i + 1))

/-- What is reported for a misspelled entry. -/
inductive EntryFault (key c : String) : DefinitionError → Prop
  | empty (h : c = "") : EntryFault key c (.illegalArgument key)
  | repeated (h : c ≠ "") : EntryFault key c (.duplicateColumn key c)

/-- The check of one entry, before the entries `rest`. -/
def checkEntry (key c : String) (rest : List String) : Except DefinitionError Unit :=
  if c = "" then .error (.illegalArgument key)
  else if c ∈ rest then .error (.duplicateColumn key c)
  else .ok ()

section
variable {key c : String} {cs rest : List String} {e : DefinitionError}

theorem checkSpelling_cons :
    checkSpelling key (c :: cs) = (checkEntry key c cs).bind fun _ => checkSpelling key cs := by
  rw [checkSpelling, checkEntry]
  split
  · rfl
  · split <;> rfl

theorem checkEntry_eq_error_iff :
    checkEntry key c rest = .error e ↔ (c = "" ∨ c ∈ rest) ∧ EntryFault key c e := by
  rw [checkEntry]
  constructor
  · intro h
    split at h
    · next hc =>
      cases h
      exact ⟨Or.inl hc, .empty hc⟩
    · next hc =>
      split at h
      · next hm =>
        cases h
        exact ⟨Or.inr hm, .repeated hc⟩
      · cases h
  · rintro ⟨hor, hfault⟩
    cases hfault with
    | empty hc => rw [if_pos hc]
    | repeated hc => rw [if_neg hc, if_pos (hor.resolve_left hc)]

theorem checkEntry_ne_ok_iff : checkEntry key c rest ≠ .ok () ↔ c = "" ∨ c ∈ rest := by
  rw [checkEntry]
  by_cases hc : c = ""
  · simp [hc]
  · by_cases hm : c ∈ rest
    · simp [hc, hm]
    · simp [hc, hm]

/-- **The first misspelled entry is reported.** -/
theorem checkSpelling_eq_error_iff : checkSpelling key cs = .error e ↔
    ∃ i c, IsLeast {i | Misspelled cs i} i ∧ cs[i]? = some c ∧ EntryFault key c e := by
  have hsame : ∀ i, FailsAt (checkEntry key) cs i ↔ Misspelled cs i := by
    intro i
    simp only [FailsAt, Misspelled, checkEntry_ne_ok_iff]
  rw [scan_eq_error_iff (checkEntry key) rfl fun _ _ => checkSpelling_cons]
  simp only [hsame, checkEntry_eq_error_iff]
  refine exists_congr fun i => exists_congr fun c => and_congr_right fun hi => and_congr_right ?_
  intro hc
  obtain ⟨c', hc', hor⟩ := hi.1
  obtain rfl : c = c' := Option.some.inj (hc.symm.trans hc')
  exact and_iff_right hor

-- The position decides, and not which of the two faults it is.
example : checkSpelling "k" (columnNames "name,name,") = .error (.duplicateColumn "k" "name") ∧
    checkSpelling "k" (columnNames ",name,name") = .error (.illegalArgument "k") := ⟨rfl, rfl⟩

end

/-! ## Columns -/

/-- The catalog has the column, with values that are plain strings and stored as they are. -/
def HoldsText (table : TableId) (lookup : SchemaLookup) (c : String) : Prop :=
  ∃ column, lookup table c = some column ∧ column.dataType = .string ∧
    Encoding.dictionary ∉ column.encodings

/-- The entry at position `i` is no column that holds text. -/
def Unfit (table : TableId) (lookup : SchemaLookup) (cs : List String) (i : Nat) : Prop :=
  ∃ c, cs[i]? = some c ∧ ¬HoldsText table lookup c

/-- What is reported for an entry that is no column that holds text. -/
inductive ColumnFault (key : String) (table : TableId) (lookup : SchemaLookup) (c : String) :
    DefinitionError → Prop
  | notFound (h : lookup table c = none) :
      ColumnFault key table lookup c (.columnNotFound key c table.name)
  | notString {column : Column} (h : lookup table c = some column)
      (htype : column.dataType ≠ .string) :
      ColumnFault key table lookup c (.unsupportedType key c column.dataType)
  | encoded {column : Column} (h : lookup table c = some column)
      (htype : column.dataType = .string) (hcode : Encoding.dictionary ∈ column.encodings) :
      ColumnFault key table lookup c (.unsupportedEncoding key c)

section
variable {key c : String} {table : TableId} {lookup : SchemaLookup} {cs : List String}
  {e : DefinitionError}

theorem checkColumn_ne_ok_iff :
    checkColumn key table lookup c ≠ .ok () ↔ ¬HoldsText table lookup c := by
  simp only [ne_eq, checkColumn_eq_ok_iff, Column.isText_iff, HoldsText]

theorem checkColumn_eq_error_iff :
    checkColumn key table lookup c = .error e ↔ ColumnFault key table lookup c e := by
  constructor
  · intro h
    rw [checkColumn] at h
    split at h
    · next hnone =>
      cases h
      exact .notFound hnone
    · next column hsome =>
      simp only [Bool.not_eq_true', Bool.eq_false_iff, ne_eq, DataType.isString_iff,
        Column.isDictionaryEncoded_iff] at h
      split at h
      · next htype =>
        cases h
        exact .notString hsome htype
      · next htype =>
        split at h
        · next hcode =>
          cases h
          exact .encoded hsome (not_not.1 htype) hcode
        · cases h
  · intro h
    cases h with
    | notFound h => simp [checkColumn, h]
    | notString h htype => simp [checkColumn, h, DataType.isString_iff, htype]
    | encoded h htype hcode =>
      simp [checkColumn, h, DataType.isString_iff, htype, Column.isDictionaryEncoded_iff, hcode]

theorem checkCatalog_eq_ok_iff_holdsText :
    checkCatalog key table lookup cs = .ok () ↔ ∀ c ∈ cs, HoldsText table lookup c := by
  simp only [checkCatalog_eq_ok_iff, Column.isText_iff, HoldsText]

theorem checkCatalog_cons : checkCatalog key table lookup (c :: cs) =
    (checkColumn key table lookup c).bind fun _ => checkCatalog key table lookup cs := by
  rw [checkCatalog]
  cases checkColumn key table lookup c <;> rfl

/-- **The first entry that is no column that holds text is reported.** -/
theorem checkCatalog_eq_error_iff : checkCatalog key table lookup cs = .error e ↔
    ∃ i c, IsLeast {i | Unfit table lookup cs i} i ∧ cs[i]? = some c ∧
      ColumnFault key table lookup c e := by
  have hsame : ∀ i, FailsAt (fun c _ => checkColumn key table lookup c) cs i ↔
      Unfit table lookup cs i := by
    intro i
    simp only [FailsAt, Unfit, checkColumn_ne_ok_iff]
  rw [scan_eq_error_iff (fun c _ => checkColumn key table lookup c) rfl
    fun _ _ => checkCatalog_cons]
  simp only [hsame, checkColumn_eq_error_iff]

end

/-! ## The answer -/

/-- What is to be answered to a property map. -/
inductive Verdict (key : String) (properties : ExtTreeMap String String) (table : TableId)
    (lookup : SchemaLookup) : Except DefinitionError (List String) → Prop
  /-- The property is absent or blank. -/
  | missing (h : ∀ raw, properties[key]? = some raw → trim raw = "") :
      Verdict key properties table lookup (.error (.missingProperty key))
  /-- An entry is empty or repeated, and this is the first one. -/
  | misspelled {raw c : String} {cs : List String} {i : Nat} {e : DefinitionError}
      (hraw : properties[key]? = some raw) (hblank : trim raw ≠ "") (hcs : IsEntries raw cs)
      (hi : IsLeast {i | Misspelled cs i} i) (hc : cs[i]? = some c) (he : EntryFault key c e) :
      Verdict key properties table lookup (.error e)
  /-- No entry is empty or repeated, and this is the first that is no column that holds text. -/
  | unfit {raw c : String} {cs : List String} {i : Nat} {e : DefinitionError}
      (hraw : properties[key]? = some raw) (hblank : trim raw ≠ "") (hcs : IsEntries raw cs)
      (hempty : "" ∉ cs) (hnodup : cs.Nodup) (hi : IsLeast {i | Unfit table lookup cs i} i)
      (hc : cs[i]? = some c) (he : ColumnFault key table lookup c e) :
      Verdict key properties table lookup (.error e)
  /-- No entry is empty or repeated, and all of them are columns that hold text. -/
  | accepted {raw : String} {cs : List String} (hraw : properties[key]? = some raw)
      (hblank : trim raw ≠ "") (hcs : IsEntries raw cs) (hempty : "" ∉ cs) (hnodup : cs.Nodup)
      (hfit : ∀ c ∈ cs, HoldsText table lookup c) : Verdict key properties table lookup (.ok cs)

variable {key : String} {properties : ExtTreeMap String String} {table : TableId}
  {lookup : SchemaLookup}

/-- A list that is there is checked entry by entry. -/
theorem validateColumns_of_listed {raw : String} (hraw : properties[key]? = some raw)
    (hblank : trim raw ≠ "") : validateColumns key properties table lookup =
      (checkSpelling key (columnNames raw)).bind fun _ =>
        (checkCatalog key table lookup (columnNames raw)).map fun _ => columnNames raw := by
  have hfull : ¬isBlankText raw = true := mt isBlankText_iff.1 hblank
  simp only [validateColumns, hraw, if_neg hfull]
  cases checkSpelling key (columnNames raw) with
  | error e => rfl
  | ok u => cases checkCatalog key table lookup (columnNames raw) <;> rfl

/-- Without a list there is nothing to check. -/
theorem validateColumns_of_missing (h : ∀ raw, properties[key]? = some raw → trim raw = "") :
    validateColumns key properties table lookup = .error (.missingProperty key) := by
  rw [validateColumns]
  split
  · rfl
  · next raw hraw => rw [if_pos (isBlankText_iff.2 (h raw hraw))]

/-- Whatever is answered is what is to be answered. -/
theorem verdict_validateColumns :
    Verdict key properties table lookup (validateColumns key properties table lookup) := by
  by_cases hlist : ∃ raw, properties[key]? = some raw ∧ trim raw ≠ ""
  · obtain ⟨raw, hraw, hblank⟩ := hlist
    have hcs : IsEntries raw (columnNames raw) := isEntries_iff.2 rfl
    rw [validateColumns_of_listed hraw hblank]
    cases hs : checkSpelling key (columnNames raw) with
    | error e =>
      obtain ⟨i, c, hi, hc, he⟩ := checkSpelling_eq_error_iff.1 hs
      exact .misspelled hraw hblank hcs hi hc he
    | ok u =>
      obtain ⟨hempty, hnodup⟩ := checkSpelling_eq_ok_iff.1 hs
      cases hcat : checkCatalog key table lookup (columnNames raw) with
      | error e =>
        obtain ⟨i, c, hi, hc, he⟩ := checkCatalog_eq_error_iff.1 hcat
        exact .unfit hraw hblank hcs hempty hnodup hi hc he
      | ok u =>
        exact .accepted hraw hblank hcs hempty hnodup (checkCatalog_eq_ok_iff_holdsText.1 hcat)
  · have hmissing : ∀ raw, properties[key]? = some raw → trim raw = "" := by
      simpa using hlist
    rw [validateColumns_of_missing hmissing]
    exact .missing hmissing

/-- **The verdict on a list is what is answered.** -/
theorem validateColumns_eq_iff_verdict {answer : Except DefinitionError (List String)} :
    validateColumns key properties table lookup = answer ↔
      Verdict key properties table lookup answer := by
  constructor
  · rintro rfl
    exact verdict_validateColumns
  · intro h
    cases h with
    | missing h => exact validateColumns_of_missing h
    | misspelled hraw hblank hcs hi hc he =>
      obtain rfl := isEntries_iff.1 hcs
      rw [validateColumns_of_listed hraw hblank, checkSpelling_eq_error_iff.2 ⟨_, _, hi, hc, he⟩]
      rfl
    | unfit hraw hblank hcs hempty hnodup hi hc he =>
      obtain rfl := isEntries_iff.1 hcs
      rw [validateColumns_of_listed hraw hblank, checkSpelling_eq_ok_iff.2 ⟨hempty, hnodup⟩,
        checkCatalog_eq_error_iff.2 ⟨_, _, hi, hc, he⟩]
      rfl
    | accepted hraw hblank hcs hempty hnodup hfit =>
      obtain rfl := isEntries_iff.1 hcs
      rw [validateColumns_of_listed hraw hblank, checkSpelling_eq_ok_iff.2 ⟨hempty, hnodup⟩,
        checkCatalog_eq_ok_iff_holdsText.2 hfit]
      rfl

-- Capitals and white space do not count, so the first entry is repeated, and the empty one that the
-- last comma leaves comes too late.
example : Verdict "k" ((∅ : ExtTreeMap String String).insert "k" " City ,\tCITY,") table lookup
    (.error (.duplicateColumn "k" "city")) := by
  have hcs : IsEntries " City ,\tCITY," ["city", "city", ""] :=
    ⟨[" City ", "\tCITY", ""], by decide +kernel⟩
  have hfirst : Misspelled ["city", "city", ""] 0 := ⟨"city", rfl, Or.inr (by decide)⟩
  exact .misspelled ExtTreeMap.getElem?_insert_self (by decide +kernel) hcs
    ⟨hfirst, fun _ _ => Nat.zero_le _⟩ rfl (.repeated (by decide))

end IndexShards
