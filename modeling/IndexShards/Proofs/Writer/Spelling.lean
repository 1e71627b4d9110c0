import IndexShards.Proofs.Persist.Row
import IndexShards.Proofs.Writer.Accounting

/-!
# Under which names the values of a row are found

A value is looked up under the lower case of a name.  A field that is added is stored under the
lower case of its name, so it is found again by every spelling, and it reaches the index.  A row
that is read from JSON has its names as they stand in the text.  One of them that has a capital is
never looked for, whatever the spelling: the value is there, but a writer goes past it, and skips
the row if it has nothing else.

## What is here

* `Row.IsLowered` — the names of a row are in lower case, as they are if fields were added to it.
* `Writer.Heeds` — a writer does not skip a row; `heeds_of_get?` says that it does not skip what it
  finds.
* `Row.Finds`, `Row.Hides` — a stored value is found by every spelling of its name and reaches the
  index, or is found by none and does not.
* `Row.finds_or_hides` — **it is found exactly if it is stored under a name in lower case**.
* `Row.not_forall_finds` — a row in JSON with a value that is hidden.
-/

set_option autoImplicit false

namespace IndexShards

open Std Text

variable {ω : Type}

/-! ## Rows made of fields -/

namespace Row

/-- All names of the row are in lower case. -/
def IsLowered (r : Row) : Prop := ∀ n ∈ r.fields, lowercase n = n

/-- A field that is added brings a name in lower case. -/
theorem IsLowered.addField {r : Row} (h : r.IsLowered) (name : String) (value : Value) :
    (r.addField name value).IsLowered := by
  intro n hn
  rcases ExtTreeMap.mem_insert.1 hn with hname | hn
  · rw [← LawfulEqCmp.eq_of_compare hname, lowercase_lowercase]
  · exact h n hn

/-- The names of a row that fields were added to are in lower case. -/
theorem isLowered_ofFields (fields : List (String × Value)) : (ofFields fields).IsLowered := by
  have hempty : IsLowered empty := fun n hn => absurd hn (by simp [empty])
  rw [ofFields]
  generalize empty = r at hempty ⊢
  induction fields generalizing r with
  | nil => exact hempty
  | cons field fields ih => exact ih _ (hempty.addField _ _)

end Row

/-! ## Rows that are not skipped -/

namespace Writer

variable {w : Writer ω} {r : Row} {c : String} {v : Value}

/-- The writer does not skip the row with the value `v` for the column `c`. -/
inductive Heeds (w : Writer ω) (r : Row) (s : ω) (c : String) (v : Value) : Prop
  /-- The row is refused for a column with a value that is not a text, and nothing else happens. -/
  | refused {c' : String} {v' : Value} (hc : c' ∈ w.columns) (hvalue : r.get? c' = some v')
      (hother : v'.text? = none) (h : w.addRow r s =
        ⟨.error (.invalidArgument (.notText c' w.indexName v'.typeName)), w, s, []⟩)
  /-- The value is a text, a document that has it for the column is handed to the engine, and the
  engine's answer is returned. -/
  | handedOver {text : String} {doc : Document} (hv : v = .text text) (hmem : (c, text) ∈ doc)
      (hanswer : (w.addRow r s).answer = (w.engine.addDocument doc s).1)
      (hworld : (w.addRow r s).world = (w.engine.addDocument doc s).2)
      (hskipped : (w.addRow r s).writer.rowsSkipped = w.rowsSkipped)

/-- A row with a value for one of the columns does not count as skipped. -/
theorem rowsSkipped_addRow (hc : c ∈ w.columns) (hv : r.get? c = some v) (s : ω) :
    (w.addRow r s).writer.rowsSkipped = w.rowsSkipped := by
  have hend := rowEnd_addRow w r s
  generalize w.addRow r s = out at hend ⊢
  cases hend with
  | closed => rfl
  | refused => rfl
  | skipped _ hnone =>
    rw [hnone c hc] at hv
    cases hv
  | failed => rfl
  | added => rfl

/-- What an open writer finds for one of its columns, it does not skip. -/
theorem heeds_of_get? (hopen : w.isClosed = false) (hc : c ∈ w.columns) (hv : r.get? c = some v)
    (s : ω) : w.Heeds r s c v := by
  rcases forall_or_exists_first_notText r.get? w.columns with
    hall | ⟨before, c', after, v', hw, hbefore, hc', hother⟩
  · obtain ⟨text, htext⟩ : ∃ text, r.get? c = some (.text text) := by
      refine (notText_eq_false_iff.1 (hall c hc)).resolve_left ?_
      simp [hv]
    have hmem : (c, text) ∈ textsOf r.get? w.columns := mem_textsOf.2 ⟨hc, htext⟩
    obtain ⟨hanswer, hworld⟩ := addRow_of_texts (s := s) hopen hall (List.ne_nil_of_mem hmem)
    have hvalue : v = .text text := Option.some.inj (hv.symm.trans htext)
    exact .handedOver hvalue hmem hanswer hworld (rowsSkipped_addRow hc hv s)
  · refine .refused ?_ hc' hother (addRow_of_notText hopen hw hbefore hc' hother)
    rw [hw]
    simp

end Writer

/-! ## Stored values -/

namespace Row

variable {r : Row} {n : String} {v : Value}

/-- The value that is stored under `n` is found by every spelling of the name, and no open writer
with that column skips it. -/
structure Finds (r : Row) (n : String) (v : Value) : Prop where
  get?_eq : ∀ n', lowercase n' = lowercase n → r.get? n' = some v
  heeded : ∀ {ω : Type} (w : Writer ω) (s : ω), w.isClosed = false → lowercase n ∈ w.columns →
    w.Heeds r s (lowercase n) v

/-- What is stored under `n` is found by no spelling of the name, and every open writer that has a
column for nothing else in the row skips the row. -/
structure Hides (r : Row) (n : String) : Prop where
  get?_eq_none : ∀ n', lowercase n' = lowercase n → r.get? n' = none
  skipped : ∀ {ω : Type} (w : Writer ω) (s : ω), w.isClosed = false →
    (∀ c ∈ w.columns, c = lowercase n ∨ r.get? c = none) →
    w.addRow r s = ⟨.ok (), { w with rowsSkipped := w.rowsSkipped + 1 }, s, []⟩

/-- What is stored under a name in lower case is found. -/
theorem finds_of_lowercase (hstored : r.fields[n]? = some v) (hlower : lowercase n = n) :
    r.Finds n v := by
  have hget : ∀ n', lowercase n' = lowercase n → r.get? n' = some v := by
    intro n' hn'
    rw [get?, hn', hlower, hstored]
  refine ⟨hget, ?_⟩
  intro ω w s hopen hc
  exact Writer.heeds_of_get? hopen hc (hget _ (lowercase_lowercase n)) s

/-- What is stored under a name with a capital is hidden, if no other name has its lower case. -/
theorem hides_of_capital (hne : lowercase n ≠ n)
    (halone : ∀ n' ∈ r.fields, lowercase n' = lowercase n → n' = n) : r.Hides n := by
  have hget : ∀ n', lowercase n' = lowercase n → r.get? n' = none := by
    intro n' hn'
    rw [get?, hn']
    refine ExtTreeMap.getElem?_eq_none ?_
    intro hmem
    exact hne (halone _ hmem (lowercase_lowercase n))
  refine ⟨hget, ?_⟩
  intro ω w s hopen hcolumns
  have hnone : ∀ c ∈ w.columns, r.get? c = none := by
    intro c hc
    rcases hcolumns c hc with rfl | hnone
    · exact hget _ (lowercase_lowercase n)
    · exact hnone
  have hall : ∀ c ∈ w.columns, notText (r.get? c) = false := by
    intro c hc
    rw [hnone c hc]
    rfl
  exact Writer.addRow_of_no_texts hopen hall ((textsOf_eq_nil_iff hall).2 hnone)

/-- What is found is not hidden. -/
theorem Finds.not_hides (h : r.Finds n v) : ¬r.Hides n := by
  intro hhides
  have hsome := h.get?_eq n rfl
  rw [hhides.get?_eq_none n rfl] at hsome
  cases hsome

/-- **A stored value is found exactly if its name is in lower case.**  Let no other name of the row
have the same lower case.  If the row is made of fields that were added, the value is found by every
spelling of its name and reaches the index.  In any row it is so if the value is stored under a name
in lower case, and otherwise the value is hidden. -/
theorem finds_or_hides (hstored : r.fields[n]? = some v)
    (halone : ∀ n' ∈ r.fields, lowercase n' = lowercase n → n' = n) :
    (∀ fields, r = ofFields fields → r.Finds n v) ∧
      (r.Finds n v ↔ lowercase n = n) ∧ (r.Hides n ↔ lowercase n ≠ n) := by
  refine ⟨?_, ⟨?_, finds_of_lowercase hstored⟩, ⟨?_, fun hne => hides_of_capital hne halone⟩⟩
  · rintro fields rfl
    have hmem : n ∈ (ofFields fields).fields :=
      ExtTreeMap.mem_iff_isSome_getElem?.2 (by rw [hstored]; rfl)
    exact finds_of_lowercase hstored (isLowered_ofFields fields n hmem)
  · intro hfinds
    by_contra hne
    exact hfinds.not_hides (hides_of_capital hne halone)
  · intro hhides hlower
    exact (finds_of_lowercase hstored hlower).not_hides hhides

/-- The row with one value, under a name as it is. -/
def single (n : String) (v : Value) : Row := ⟨(∅ : ExtTreeMap String Value).insert n v⟩

theorem getElem?_single (n : String) (v : Value) : (single n v).fields[n]? = some v :=
  ExtTreeMap.getElem?_insert_self

theorem eq_of_mem_single {n n' : String} {v : Value} (h : n' ∈ (single n v).fields) : n' = n := by
  rcases ExtTreeMap.mem_insert.1 h with hname | hmem
  · exact (LawfulEqCmp.eq_of_compare hname).symm
  · simp at hmem

/-- A field that is added under a name with a capital is found by every spelling.  A value that
stands in a row under such a name is found by none. -/
theorem finds_or_hides_of_capital :
    (ofFields [("Comment", .text "fast")]).get? "COMMENT" = some (.text "fast") ∧
      (single "comment" (.text "fast")).get? "COMMENT" = some (.text "fast") ∧
      (single "Comment" (.text "fast")).get? "COMMENT" = none ∧
      (single "Comment" (.text "fast")).get? "Comment" = none := by
  have hlower : lowercase "Comment" = "comment" := by decide +kernel
  have hcapital : lowercase "Comment" ≠ "Comment" := by decide +kernel
  have hsmall : lowercase "comment" = "comment" := by decide +kernel
  have hspelled : lowercase "COMMENT" = lowercase "comment" := by decide +kernel
  have hadded : ofFields [("Comment", .text "fast")] = single "comment" (.text "fast") := by
    rw [← hlower]
    rfl
  have hfound := finds_or_hides (getElem?_single "comment" (.text "fast"))
    fun _ h _ => eq_of_mem_single h
  have hhidden := (finds_or_hides (getElem?_single "Comment" (.text "fast"))
    fun _ h _ => eq_of_mem_single h).2.2.2 hcapital
  refine ⟨?_, ?_, ?_, hhidden.get?_eq_none _ rfl⟩
  · rw [hadded]
    exact (hfound.1 _ hadded.symm).get?_eq _ hspelled
  · exact (hfound.2.1.2 hsmall).get?_eq _ hspelled
  · exact hhidden.get?_eq_none _ (hspelled.trans (hsmall.trans hlower.symm))

/-- A row in JSON has one value, under `Comment`.  It is read with that value in it, but the value
is found by no spelling of the name, and a writer for the column `comment` skips the row. -/
theorem not_forall_finds :
    let text := "\x7b\"fields\":\x7b\"Comment\":\x7b\"String\":\"fast\"\x7d\x7d\x7d"
    let r := single "Comment" (.text "fast")
    read? text = some r ∧ r.fields["Comment"]? = some (.text "fast") ∧
      r.get? "comment" = none ∧ r.get? "Comment" = none ∧
      (∀ (w : Writer Unit) (s : Unit), w.isClosed = false → w.columns = ["comment"] →
        w.addRow r s = ⟨.ok (), { w with rowsSkipped := w.rowsSkipped + 1 }, s, []⟩) ∧
      ¬∀ (text : String) (r : Row) (n : String) (v : Value), read? text = some r →
        r.fields[n]? = some v → (∀ n' ∈ r.fields, lowercase n' = lowercase n → n' = n) →
          r.Finds n v := by
  intro text r
  have hread : read? text = some r := by
    have hwritten : text = write r := by decide +kernel
    have hdouble : r.HasNoDouble := by
      intro e he
      have hone : r.fields.toList = [("Comment", .text "fast")] := by rfl
      rw [hone, List.mem_singleton] at he
      rw [he]
      rfl
    rw [hwritten, read?_write_row hdouble, if_pos (by decide +kernel)]
  have hlower : lowercase "Comment" = "comment" := by decide +kernel
  have hhides : r.Hides "Comment" :=
    hides_of_capital (by decide +kernel) fun _ h _ => eq_of_mem_single h
  refine ⟨hread, getElem?_single _ _, ?_, hhides.get?_eq_none _ rfl, ?_, ?_⟩
  · refine hhides.get?_eq_none _ ?_
    decide +kernel
  · intro w s hopen hcolumns
    refine hhides.skipped w s hopen ?_
    intro c hc
    rw [hcolumns, List.mem_singleton] at hc
    exact Or.inl (hc.trans hlower.symm)
  · intro hall
    have hfinds := hall text r _ _ hread (getElem?_single _ _) fun _ h _ => eq_of_mem_single h
    exact hfinds.not_hides hhides

end Row
end IndexShards
