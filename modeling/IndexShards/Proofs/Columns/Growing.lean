import IndexShards.Proofs.Columns
import IndexShards.Proofs.Schema.Lookup

/-!
# Tables that get more columns

A table may get more columns after an index has been defined on it.  A new column stands behind the
old ones, and of a repeated name the first declaration counts, so whatever name was found is found
as before, be the new columns called the same, in the same letter case or in another one.

A list of columns is gone through from the front.  An entry that passed passes again, and an entry
that was found and refused is refused again for the same reason.  Only an entry that was not found
can change, and it can only let the check get further.

## What is here

* `TableSchema.Extends s' s` — `s'` is `s` with more columns behind its own; `extends_declared` says
  that declarations make such a schema.
* `KeepsColumns` — what one catalog finds, another one finds as well; `keepsColumns_of_extends`.
* `Verdict.of_keepsColumns`, `Verdict.le_of_notFound` — what becomes of a verdict.
* `validateColumns_of_extends` — **more columns change no answer but that an entry is not found, and
  then nothing is said of the entries before it**.
-/

set_option autoImplicit false

namespace IndexShards

open Std Text

/-! ## More columns -/

namespace TableSchema

/-- The schema is of the same table as `s` and begins with the columns of `s`. -/
structure Extends (s' s : TableSchema) : Prop where
  tableName_eq : s'.tableName = s.tableName
  columns_prefix : s.columns <+: s'.columns

/-- Declaring further columns extends a schema. -/
theorem extends_declared (s : TableSchema) (ds : List Declaration) :
    (ds.foldl (fun s d => s.addColumn d.declared) s).Extends s := by
  rw [foldl_addColumn]
  exact ⟨rfl, List.prefix_append _ _⟩

end TableSchema

/-- Every column of the table that the first catalog finds is found by the second one as well. -/
def KeepsColumns (table : TableId) (lookup lookup' : SchemaLookup) : Prop :=
  ∀ name column, lookup table name = some column → lookup' table name = some column

/-- **More columns hide none of those that are there.** -/
theorem keepsColumns_of_extends {s s' : TableSchema} (h : s'.Extends s) (table : TableId) :
    KeepsColumns table s.resolve s'.resolve := by
  intro name column hfound
  rw [TableSchema.resolve_eq_some_iff, TableSchema.column_eq_find?] at hfound ⊢
  rw [h.tableName_eq]
  exact ⟨hfound.1, h.columns_prefix.find?_eq_some hfound.2⟩

/-! ## What is said of an entry -/

/-- The column that is named as the reason. -/
def DefinitionError.column? : DefinitionError → Option String
  | missingProperty _ => none
  | illegalArgument _ => none
  | duplicateColumn _ c => some c
  | columnNotFound _ c _ => some c
  | unsupportedType _ c _ => some c
  | unsupportedEncoding _ c => some c

/-- The answer is not that a column was not found. -/
def Settled (answer : Except DefinitionError (List String)) : Prop :=
  ∀ key c tableName, answer ≠ .error (.columnNotFound key c tableName)

variable {key c : String} {properties : ExtTreeMap String String} {table : TableId}
  {lookup lookup' : SchemaLookup} {cs : List String} {e : DefinitionError}
  {answer : Except DefinitionError (List String)}

theorem ColumnFault.column?_eq (h : ColumnFault key table lookup c e) : e.column? = some c := by
  cases h <;> rfl

theorem ColumnFault.not_holdsText (h : ColumnFault key table lookup c e) :
    ¬HoldsText table lookup c := by
  have hbad : checkColumn key table lookup c ≠ .ok () := by
    rw [checkColumn_eq_error_iff.2 h]
    exact nofun
  exact checkColumn_ne_ok_iff.1 hbad

section Keeps

variable (hkeeps : KeepsColumns table lookup lookup')

include hkeeps

theorem HoldsText.of_keepsColumns (h : HoldsText table lookup c) : HoldsText table lookup' c := by
  obtain ⟨column, hfound, htext⟩ := h
  exact ⟨column, hkeeps c column hfound, htext⟩

/-- What was not at fault is not at fault. -/
theorem Unfit.of_keepsColumns {i : Nat} (h : Unfit table lookup' cs i) :
    Unfit table lookup cs i := by
  obtain ⟨c, hc, hunfit⟩ := h
  exact ⟨c, hc, fun htext => hunfit (htext.of_keepsColumns hkeeps)⟩

/-- A column that was found and refused is refused for the same reason. -/
theorem ColumnFault.of_keepsColumns (h : ColumnFault key table lookup c e)
    (hsettled : Settled (.error e)) : ColumnFault key table lookup' c e := by
  cases h with
  | notFound => exact absurd rfl (hsettled _ _ _)
  | notString hfound htype => exact .notString (hkeeps _ _ hfound) htype
  | encoded hfound htype hcode => exact .encoded (hkeeps _ _ hfound) htype hcode

/-! ## What becomes of a verdict -/

/-- **A settled verdict stays.** -/
theorem Verdict.of_keepsColumns (h : Verdict key properties table lookup answer)
    (hsettled : Settled answer) : Verdict key properties table lookup' answer := by
  cases h with
  | missing h => exact .missing h
  | misspelled hraw hblank hcs hi hc he => exact .misspelled hraw hblank hcs hi hc he
  | unfit hraw hblank hcs hempty hnodup hi hc he =>
    have he' := he.of_keepsColumns hkeeps hsettled
    refine .unfit hraw hblank hcs hempty hnodup ⟨⟨_, hc, he'.not_holdsText⟩, ?_⟩ hc he'
    intro j hj
    exact hi.2 (Unfit.of_keepsColumns hkeeps hj)
  | accepted hraw hblank hcs hempty hnodup hfit =>
    exact .accepted hraw hblank hcs hempty hnodup fun c hc => (hfit c hc).of_keepsColumns hkeeps

/-- Where an entry was not found, a fault can then only stand at this entry or behind it. -/
theorem Verdict.le_of_notFound {key' tableName : String}
    (h : Verdict key properties table lookup (.error (.columnNotFound key' c tableName))) :
    ∃ (raw : String) (cs : List String) (i : Nat), properties[key]? = some raw ∧
      IsEntries raw cs ∧ cs.Nodup ∧ cs[i]? = some c ∧
      ∀ e, Verdict key properties table lookup' (.error e) →
        ∃ j d, i ≤ j ∧ cs[j]? = some d ∧ ColumnFault key table lookup' d e := by
  cases h with
  | misspelled _ _ _ _ _ he => cases he
  | @unfit raw _ cs i _ hraw hblank hcs hempty hnodup hi hc he =>
    cases he
    refine ⟨raw, cs, i, hraw, hcs, hnodup, hc, fun e h' => ?_⟩
    cases h' with
    | missing h => exact absurd (h raw hraw) hblank
    | misspelled hraw' _ hcs' hj hd hfault =>
      -- the list is spelled as it was, and then no entry was at fault
      cases hraw.symm.trans hraw'
      obtain rfl := hcs.unique hcs'
      have hbad := checkSpelling_eq_error_iff.2 ⟨_, _, hj, hd, hfault⟩
      rw [checkSpelling_eq_ok_iff.2 ⟨hempty, hnodup⟩] at hbad
      cases hbad
    | unfit hraw' _ hcs' _ _ hj hd hfault =>
      cases hraw.symm.trans hraw'
      obtain rfl := hcs.unique hcs'
      exact ⟨_, _, hi.2 (Unfit.of_keepsColumns hkeeps hj.1), hd, hfault⟩

end Keeps

/-! ## The answer -/

/-- In a list without repetitions, what stands at a position or behind it does not stand before. -/
theorem not_mem_take_of_getElem? {i j : Nat} (hnodup : cs.Nodup) (hij : i ≤ j)
    (hc : cs[j]? = some c) : c ∉ cs.take i := by
  rw [← List.take_append_drop i cs, List.nodup_append] at hnodup
  have hdrop : c ∈ cs.drop i := by
    refine List.mem_of_getElem? (i := j - i) ?_
    rw [List.getElem?_drop, Nat.add_sub_cancel' hij]
    exact hc
  exact fun hmem => hnodup.2.2 c hmem c hdrop rfl

/-- **More columns change no settled answer.**  If a list of columns is accepted, or refused for any
reason but that an entry was not found, a schema with further columns gives the same answer.  If an
entry was not found, that schema may accept the list; and if it refuses it, then because of this
entry or one behind it, and no entry before it is named. -/
theorem validateColumns_of_extends {s s' : TableSchema} (h : s'.Extends s) (key : String)
    (properties : ExtTreeMap String String) (table : TableId) :
    (∀ answer, validateColumns key properties table s.resolve = answer → Settled answer →
      validateColumns key properties table s'.resolve = answer) ∧
    ∀ key' c tableName, validateColumns key properties table s.resolve =
        .error (.columnNotFound key' c tableName) →
      ∃ (raw : String) (cs : List String) (i : Nat), properties[key]? = some raw ∧
        IsEntries raw cs ∧ cs[i]? = some c ∧
        ∀ e, validateColumns key properties table s'.resolve = .error e →
          (∃ j d, i ≤ j ∧ cs[j]? = some d ∧ ColumnFault key table s'.resolve d e) ∧
          ∀ b ∈ cs.take i, e.column? ≠ some b := by
  have hkeeps := keepsColumns_of_extends h table
  simp only [validateColumns_eq_iff_verdict]
  constructor
  · intro answer hverdict hsettled
    exact hverdict.of_keepsColumns hkeeps hsettled
  · intro key' c tableName hverdict
    obtain ⟨raw, cs, i, hraw, hcs, hnodup, hc, hlater⟩ := hverdict.le_of_notFound hkeeps
    refine ⟨raw, cs, i, hraw, hcs, hc, fun e he => ?_⟩
    obtain ⟨j, d, hij, hd, hfault⟩ := hlater e he
    refine ⟨⟨j, d, hij, hd, hfault⟩, fun b hb hname => ?_⟩
    obtain rfl : d = b := Option.some.inj (hfault.column?_eq.symm.trans hname)
    exact not_mem_take_of_getElem? hnodup hij hd hb

/-- The new columns repeat a name as one of strings and another one with codes.  The first list is
refused as before; in the second one the entry is found that was not, and the next one is named. -/
theorem validateColumns_of_extends_of_repeated_names :
    let table : TableId := ⟨"t", ⟨"/t"⟩⟩
    let s := TableSchema.ofColumns "T" [.ofStrings "Comment", ⟨"amount", .int, []⟩]
    let s' := ([.column ⟨"COMMENT", .string, [.dictionary]⟩, .strings "Amount", .strings "city"] :
      List TableSchema.Declaration).foldl (fun s d => s.addColumn d.declared) s
    let first := (∅ : ExtTreeMap String String).insert "k" "comment, AMOUNT"
    let second := (∅ : ExtTreeMap String String).insert "k" "comment, City, amount"
    s'.Extends s ∧
      validateColumns "k" first table s.resolve = .error (.unsupportedType "k" "amount" .int) ∧
      validateColumns "k" first table s'.resolve = .error (.unsupportedType "k" "amount" .int) ∧
      validateColumns "k" second table s.resolve = .error (.columnNotFound "k" "city" "t") ∧
      validateColumns "k" second table s'.resolve =
        .error (.unsupportedType "k" "amount" .int) ∧
      ∃ raw cs i, second["k"]? = some raw ∧ IsEntries raw cs ∧ cs[i]? = some "city" ∧
        ∀ b ∈ cs.take i,
          (DefinitionError.unsupportedType "k" "amount" .int).column? ≠ some b := by
  intro table s s' first second
  have hextends : s'.Extends s := s.extends_declared _
  have hfirstRaw : first["k"]? = some "comment, AMOUNT" := ExtTreeMap.getElem?_insert_self
  have hsecondRaw : second["k"]? = some "comment, City, amount" := ExtTreeMap.getElem?_insert_self
  have hfirst : validateColumns "k" first table s.resolve =
      .error (.unsupportedType "k" "amount" .int) := by
    rw [validateColumns_of_listed hfirstRaw (by decide +kernel)]
    decide +kernel
  have hsecond : validateColumns "k" second table s.resolve =
      .error (.columnNotFound "k" "city" "t") := by
    rw [validateColumns_of_listed hsecondRaw (by decide +kernel)]
    decide +kernel
  have hlater : validateColumns "k" second table s'.resolve =
      .error (.unsupportedType "k" "amount" .int) := by
    rw [validateColumns_of_listed hsecondRaw (by decide +kernel)]
    decide +kernel
  have hsame := (validateColumns_of_extends hextends "k" first table).1
  obtain ⟨raw, cs, i, hraw, hcs, hi, hnamed⟩ :=
    (validateColumns_of_extends hextends "k" second table).2 _ _ _ hsecond
  refine ⟨hextends, hfirst, hsame _ hfirst nofun, hsecond, hlater, raw, cs, i, hraw, hcs,
    hi, ?_⟩
  exact (hnamed _ hlater).2

end IndexShards
