import IndexShards.Writer

/-!
# What a writer makes of a row

A row is made field by field, and of the fields whose names differ in letter case only the last one
counts.  A document is made of the values that the row has for the columns.  If they are all texts,
it consists of these texts, in the order of the columns; otherwise there is no document, and the
first column with another value is to blame.

## What is here

* `Row.ofFields`, `Row.lastValue` — a row made of fields, and the value that counts
  (`Row.get?_ofFields`).
* `notText` — a value that stands against a document; `textsOf` — the texts that make one.
* `forall_or_exists_first_notText` — there are no other cases.
* `documentOf_of_notText`, `documentOf_of_texts` — **the first value that is not a text is
  refused, and if there is none the document consists of the texts**.
* `map_fst_textsOf`, `mem_textsOf` — the columns of these texts, and the texts.
-/

set_option autoImplicit false

namespace IndexShards

open Text

/-! ## Rows made of fields -/

namespace Row

/-- The row that these fields make, added one after another. -/
def ofFields (fields : List (String × Value)) : Row :=
  fields.foldl (fun row field => row.addField field.1 field.2) empty

/-- The value of the last field whose name is `c` in lower case. -/
def lastValue (fields : List (String × Value)) (c : String) : Option Value :=
  (fields.reverse.find? fun field => lowercase field.1 == c).map Prod.snd

/-- A field that is added later hides what the row has under its name, and nothing else. -/
theorem get?_foldl_addField (fields : List (String × Value)) (row : Row) (name : String) :
    (fields.foldl (fun row field => row.addField field.1 field.2) row).get? name =
      (lastValue fields (lowercase name)).or (row.get? name) := by
  induction fields generalizing row with
  | nil => rfl
  | cons field fields ih =>
    rw [List.foldl_cons, ih, get?_addField, lastValue, lastValue, List.reverse_cons,
      List.find?_append, List.find?_singleton]
    cases fields.reverse.find? fun field => lowercase field.1 == lowercase name with
    | some _ => rfl
    | none =>
      by_cases hname : lowercase field.1 = lowercase name
      · simp [hname]
      · simp [hname]

/-- **A row has, under every spelling of a name, the value that was added last under any of
them.** -/
theorem get?_ofFields (fields : List (String × Value)) (name : String) :
    (ofFields fields).get? name = lastValue fields (lowercase name) := by
  rw [ofFields, get?_foldl_addField, get?_empty, Option.or_none]

end Row

/-! ## Documents -/

/-- There is a value, and it is not a text. -/
def notText (value? : Option Value) : Bool := value?.any fun v => v.text?.isNone

/-- The texts among the values of the columns, in the order of the columns. -/
def textsOf (value? : String → Option Value) (columns : List String) : Document :=
  columns.filterMap fun c => ((value? c).bind Value.text?).map fun s => (c, s)

theorem text?_eq_some_iff {v : Value} {s : String} : v.text? = some s ↔ v = .text s := by
  cases v <;> simp [Value.text?]

theorem notText_eq_true_iff {value? : Option Value} :
    notText value? = true ↔ ∃ v, value? = some v ∧ v.text? = none := by
  cases value? <;> simp [notText]

theorem notText_eq_false_iff {value? : Option Value} :
    notText value? = false ↔ value? = none ∨ ∃ s, value? = some (.text s) := by
  cases value? with
  | none => simp [notText]
  | some v => cases v <;> simp [notText, Value.text?]

/-- Either all values are texts, or there is a first column with a value that is not. -/
theorem forall_or_exists_first_notText (value? : String → Option Value) (columns : List String) :
    (∀ c ∈ columns, notText (value? c) = false) ∨
      ∃ before c after v, columns = before ++ c :: after ∧
        (∀ b ∈ before, notText (value? b) = false) ∧ value? c = some v ∧ v.text? = none := by
  cases hfind : columns.find? fun c => notText (value? c) with
  | none =>
    rw [List.find?_eq_none] at hfind
    exact Or.inl fun c hc => Bool.not_eq_true _ ▸ hfind c hc
  | some c =>
    obtain ⟨hc, before, after, hcolumns, hbefore⟩ := List.find?_eq_some_iff_append.1 hfind
    obtain ⟨v, hv, hother⟩ := notText_eq_true_iff.1 hc
    exact Or.inr ⟨before, c, after, v, hcolumns, fun b hb => by simpa using hbefore b hb, hv,
      hother⟩

section
variable {indexName : String} {row : Row} {value? : String → Option Value} {c s : String}
  {v : Value} {cs : List String}

theorem documentOf_cons_of_none (h : row.get? c = none) :
    documentOf indexName row (c :: cs) = documentOf indexName row cs := by
  rw [documentOf, h]

theorem documentOf_cons_of_text (h : row.get? c = some (.text s)) :
    documentOf indexName row (c :: cs) =
      (documentOf indexName row cs).map fun fields => (c, s) :: fields := by
  rw [documentOf, h]
  cases documentOf indexName row cs <;> rfl

theorem documentOf_cons_of_notText (h : row.get? c = some v) (hv : v.text? = none) :
    documentOf indexName row (c :: cs) =
      .error (.invalidArgument (.notText c indexName v.typeName)) := by
  rw [documentOf, h]
  cases v with
  | text s => cases hv
  | _ => rfl

theorem textsOf_cons_of_none (h : value? c = none) :
    textsOf value? (c :: cs) = textsOf value? cs := by
  rw [textsOf, List.filterMap_cons_none]
  · rfl
  · rw [h]
    rfl

theorem textsOf_cons_of_text (h : value? c = some (.text s)) :
    textsOf value? (c :: cs) = (c, s) :: textsOf value? cs := by
  rw [textsOf, List.filterMap_cons_some]
  · rfl
  · rw [h]
    rfl

/-- **The first column with a value that is not a text is refused by name.** -/
theorem documentOf_of_notText {before after : List String}
    (hbefore : ∀ b ∈ before, notText (row.get? b) = false) (hc : row.get? c = some v)
    (hv : v.text? = none) : documentOf indexName row (before ++ c :: after) =
      .error (.invalidArgument (.notText c indexName v.typeName)) := by
  induction before with
  | nil => exact documentOf_cons_of_notText hc hv
  | cons b before ih =>
    rw [List.forall_mem_cons] at hbefore
    rw [List.cons_append]
    rcases notText_eq_false_iff.1 hbefore.1 with hb | ⟨s, hb⟩
    · rw [documentOf_cons_of_none hb, ih hbefore.2]
    · rw [documentOf_cons_of_text hb, ih hbefore.2]
      rfl

/-- **If all values are texts, the document consists of them.** -/
theorem documentOf_of_texts (h : ∀ c ∈ cs, notText (row.get? c) = false) :
    documentOf indexName row cs = .ok (textsOf row.get? cs) := by
  induction cs with
  | nil => rfl
  | cons c cs ih =>
    rw [List.forall_mem_cons] at h
    rcases notText_eq_false_iff.1 h.1 with hc | ⟨s, hc⟩
    · rw [documentOf_cons_of_none hc, textsOf_cons_of_none hc, ih h.2]
    · rw [documentOf_cons_of_text hc, textsOf_cons_of_text hc, ih h.2]
      rfl

end

/-! ## The texts -/

/-- The columns of the texts are those columns for which there is one. -/
theorem map_fst_textsOf (value? : String → Option Value) (columns : List String) :
    (textsOf value? columns).map Prod.fst =
      columns.filter fun c => ((value? c).bind Value.text?).isSome := by
  induction columns with
  | nil => rfl
  | cons c columns ih =>
    rw [textsOf, List.filterMap_cons, List.filter_cons]
    cases (value? c).bind Value.text? with
    | none => exact ih
    | some s => exact congrArg (List.cons c) ih

theorem mem_textsOf {value? : String → Option Value} {columns : List String} {c s : String} :
    (c, s) ∈ textsOf value? columns ↔ c ∈ columns ∧ value? c = some (.text s) := by
  rw [textsOf, List.mem_filterMap]
  constructor
  · rintro ⟨c', hc', h⟩
    obtain ⟨s', hs', h⟩ := Option.map_eq_some_iff.1 h
    obtain ⟨v, hv, htext⟩ := Option.bind_eq_some_iff.1 hs'
    cases h
    rw [text?_eq_some_iff] at htext
    exact ⟨hc', htext ▸ hv⟩
  · rintro ⟨hc, h⟩
    exact ⟨c, hc, by rw [h]; rfl⟩

theorem textsOf_congr {value? value?' : String → Option Value} {columns : List String}
    (h : ∀ c ∈ columns, value? c = value?' c) :
    textsOf value? columns = textsOf value?' columns := by
  induction columns with
  | nil => rfl
  | cons c columns ih =>
    rw [List.forall_mem_cons] at h
    have htail := ih h.2
    rw [textsOf, textsOf] at htail
    rw [textsOf, textsOf, List.filterMap_cons, List.filterMap_cons, h.1, htail]

end IndexShards
