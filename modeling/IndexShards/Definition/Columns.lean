import IndexShards.Error
import IndexShards.Schema.Table
import IndexShards.Text.Blank

/-!
# Checking the column list of a definition

The list is one text, with a comma between any two columns.  Its entries count without the white
space around them and in lower case.  It is refused for the first of these reasons that holds: the
property is absent or blank; an entry is empty or stands in the list again further on, at the first
such entry; the table has no such column, or the column does not hold text, at the first such entry.
So a fault in the list itself comes before every fault that only the catalog shows.

## What is here

* `columnNames raw` — the entries of a list; `isEntries_iff` says which texts they are, without
  cutting.
* `checkSpelling` — no entry is empty and none is repeated.
* `checkColumn`, `checkCatalog` — each entry is a column of the table that holds text.
* `validateColumns` — all of it; the answer is the entries, in order.
-/

set_option autoImplicit false

namespace IndexShards

open Std Text

/-- The entries of a column list: what stands between the commas, without the white space around
it and in lower case. -/
def columnNames (raw : String) : List String :=
  (commaPieces raw).map fun piece => lowercase (trim piece)

/-- The texts are the entries of a column list: there are texts without a comma that make the list
when they are joined with commas, and without the white space around them and in lower case they
are these. -/
def IsEntries (raw : String) (cs : List String) : Prop :=
  ∃ ps : List String, ps ≠ [] ∧ ",".intercalate ps = raw ∧ (∀ p ∈ ps, ',' ∉ p.toList) ∧
    cs = ps.map fun p => lowercase (trim p)

/-- **A list can be cut in one way only**, so it has these entries and no others. -/
theorem isEntries_iff {raw : String} {cs : List String} :
    IsEntries raw cs ↔ cs = columnNames raw := by
  constructor
  · rintro ⟨ps, hne, rfl, hcomma, rfl⟩
    rw [columnNames, ← commaJoined_eq_intercalate, commaPieces_commaJoined hne hcomma]
  · rintro rfl
    refine ⟨commaPieces raw, commaPieces_ne_nil raw, ?_, ?_, rfl⟩
    · rw [← commaJoined_eq_intercalate, commaJoined_commaPieces]
    · exact fun p hp => not_mem_of_mem_commaPieces hp

theorem IsEntries.unique {raw : String} {cs cs' : List String} (h : IsEntries raw cs)
    (h' : IsEntries raw cs') : cs = cs' :=
  (isEntries_iff.1 h).trans (isEntries_iff.1 h').symm

/-- No entry is empty and none stands in the list again further on. -/
def checkSpelling (key : String) : List String → Except DefinitionError Unit
  | [] => .ok ()
  | c :: cs =>
    if c = "" then .error (.illegalArgument key)
    else if c ∈ cs then .error (.duplicateColumn key c)
    else checkSpelling key cs

/-- The table has this column, and it holds text. -/
def checkColumn (key : String) (table : TableId) (lookup : SchemaLookup) (c : String) :
    Except DefinitionError Unit :=
  match lookup table c with
  | none => .error (.columnNotFound key c table.name)
  | some column =>
    if !column.dataType.isString then .error (.unsupportedType key c column.dataType)
    else if column.isDictionaryEncoded then .error (.unsupportedEncoding key c)
    else .ok ()

/-- The table has all these columns, and they hold text. -/
def checkCatalog (key : String) (table : TableId) (lookup : SchemaLookup) :
    List String → Except DefinitionError Unit
  | [] => .ok ()
  | c :: cs =>
    match checkColumn key table lookup c with
    | .error e => .error e
    | .ok () => checkCatalog key table lookup cs

/-- The columns that the property lists, if the list is in order and the table has them all. -/
def validateColumns (key : String) (properties : ExtTreeMap String String) (table : TableId)
    (lookup : SchemaLookup) : Except DefinitionError (List String) :=
  match properties[key]? with
  | none => .error (.missingProperty key)
  | some raw =>
    if isBlankText raw then .error (.missingProperty key)
    else
      let names := columnNames raw
      match checkSpelling key names with
      | .error e => .error e
      | .ok () =>
        match checkCatalog key table lookup names with
        | .error e => .error e
        | .ok () => .ok names

/-! ## When the checks pass -/

theorem checkSpelling_eq_ok_iff {key : String} {cs : List String} :
    checkSpelling key cs = .ok () ↔ "" ∉ cs ∧ cs.Nodup := by
  induction cs with
  | nil => simp [checkSpelling]
  | cons c cs ih =>
    rw [checkSpelling, List.nodup_cons, List.mem_cons, not_or]
    by_cases hc : c = ""
    · simp [hc]
    · by_cases hm : c ∈ cs
      · simp [hc, hm]
      · simp [hc, hm, ih, Ne.symm hc]

theorem checkColumn_eq_ok_iff {key : String} {table : TableId} {lookup : SchemaLookup}
    {c : String} : checkColumn key table lookup c = .ok () ↔
      ∃ column, lookup table c = some column ∧ column.isText = true := by
  rw [checkColumn]
  split
  · next h => simp [h]
  · next column h =>
    simp only [h, Option.some.injEq, exists_eq_left', Column.isText, Bool.and_eq_true,
      Bool.not_eq_true']
    cases column.dataType.isString <;> cases column.isDictionaryEncoded <;> simp

theorem checkCatalog_eq_ok_iff {key : String} {table : TableId} {lookup : SchemaLookup}
    {cs : List String} : checkCatalog key table lookup cs = .ok () ↔
      ∀ c ∈ cs, ∃ column, lookup table c = some column ∧ column.isText = true := by
  induction cs with
  | nil => simp [checkCatalog]
  | cons c cs ih =>
    rw [checkCatalog, List.forall_mem_cons, ← ih, ← @checkColumn_eq_ok_iff key]
    cases checkColumn key table lookup c <;> simp

/-- **The list is accepted exactly when the property is not blank, its entries are not empty and
all different, and each of them is a column of the table that holds text.**  The answer is the
entries. -/
theorem validateColumns_eq_ok_iff {key : String} {properties : ExtTreeMap String String}
    {table : TableId} {lookup : SchemaLookup} {columns : List String} :
    validateColumns key properties table lookup = .ok columns ↔
      ∃ raw, properties[key]? = some raw ∧ isBlankText raw = false ∧ columns = columnNames raw ∧
        "" ∉ columns ∧ columns.Nodup ∧
        ∀ c ∈ columns, ∃ column, lookup table c = some column ∧ column.isText = true := by
  rw [validateColumns]
  split
  · next h => simp [h]
  · next raw h =>
    simp only [h, Option.some.injEq, exists_eq_left']
    cases isBlankText raw with
    | true => simp
    | false =>
      simp only [Bool.false_eq_true, ↓reduceIte, true_and]
      cases hs : checkSpelling key (columnNames raw) with
      | error e =>
        simp only [reduceCtorEq, false_iff, not_and]
        rintro rfl h1 h2
        have := (checkSpelling_eq_ok_iff.2 ⟨h1, h2⟩ : checkSpelling key _ = _)
        rw [hs] at this
        cases this
      | ok u =>
        obtain ⟨h1, h2⟩ := checkSpelling_eq_ok_iff.1 hs
        cases hc : checkCatalog key table lookup (columnNames raw) with
        | error e =>
          simp only [reduceCtorEq, false_iff, not_and]
          rintro rfl _ _ h3
          have := (checkCatalog_eq_ok_iff.2 h3 : checkCatalog key _ _ _ = _)
          rw [hc] at this
          cases this
        | ok u =>
          simp only [Except.ok.injEq]
          refine ⟨?_, fun h => h.1.symm⟩
          rintro rfl
          exact ⟨rfl, h1, h2, checkCatalog_eq_ok_iff.1 hc⟩

end IndexShards
