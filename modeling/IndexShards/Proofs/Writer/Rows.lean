import IndexShards.Proofs.Document
import IndexShards.Proofs.Schema
import IndexShards.Proofs.Writer.Trace

/-!
# From a definition to the engine

Names of columns are lowercased in four places: in the list of a definition, in the schema that
the list is checked against, in a row when a field is added, and in a row when a column is asked
for.  Lowercasing twice is lowercasing once, so all of them speak of the same columns, and an engine
receives exactly the texts of the columns that the definition lists.

## What is here

* `addRow_of_notText`, `addRow_of_no_texts`, `addRow_of_texts` — what an open writer makes of a
  row, for any engine.
* `Writer.Forwards` — the same with the calls; `forwards_of_traced` says that it holds.
* `exists_calls_perform` — **no document has a column that is not one of the writer's**, whatever
  is done with the writer.
* `Manager.addRow_exact` — all of it, **from a definition to the engine**.
-/

set_option autoImplicit false

namespace IndexShards

open Text

variable {ω : Type}

/-! ## One row -/

namespace Writer

variable {w : Writer ω} {row : Row} {s : ω}

/-- The first column with a value that is not a text is refused by name, and nothing else
happens. -/
theorem addRow_of_notText (hopen : w.isClosed = false) {before after : List String} {c : String}
    {v : Value} (hw : w.columns = before ++ c :: after)
    (hbefore : ∀ b ∈ before, notText (row.get? b) = false) (hc : row.get? c = some v)
    (hv : v.text? = none) : w.addRow row s =
      ⟨.error (.invalidArgument (.notText c w.indexName v.typeName)), w, s, []⟩ := by
  rw [addRow, hopen, hw, documentOf_of_notText hbefore hc hv]
  rfl

/-- A row without texts is skipped, and counted as such. -/
theorem addRow_of_no_texts (hopen : w.isClosed = false)
    (h : ∀ c ∈ w.columns, notText (row.get? c) = false)
    (hempty : textsOf row.get? w.columns = []) : w.addRow row s =
      ⟨.ok (), { w with rowsSkipped := w.rowsSkipped + 1 }, s, []⟩ := by
  rw [addRow, hopen, documentOf_of_texts h, hempty]
  rfl

/-- A row with texts is handed to the engine, and the engine's answer is returned. -/
theorem addRow_of_texts (hopen : w.isClosed = false)
    (h : ∀ c ∈ w.columns, notText (row.get? c) = false)
    (hne : textsOf row.get? w.columns ≠ []) :
    (w.addRow row s).answer = (w.engine.addDocument (textsOf row.get? w.columns) s).1 ∧
      (w.addRow row s).world = (w.engine.addDocument (textsOf row.get? w.columns) s).2 := by
  rw [addRow, hopen, documentOf_of_texts h]
  cases hdoc : textsOf row.get? w.columns with
  | nil => exact absurd hdoc hne
  | cons field fields =>
    rcases hanswer : w.engine.addDocument (field :: fields) s with ⟨answer, s'⟩
    simp only [Bool.false_eq_true, ↓reduceIte, hanswer]
    cases answer <;> exact ⟨rfl, rfl⟩

/-- What the writer makes of a row that has, for the columns, the values `value?`.  Its engine is a
traced one, so that the calls show. -/
structure Forwards (w : Writer (Traced ω)) (engine : EngineWriter ω) (row : Row)
    (value? : String → Option Value) (t : Traced ω) : Prop where
  /-- The first column with a value that is not a text is refused by name, without a call. -/
  refused : ∀ before c after v, w.columns = before ++ c :: after →
    (∀ b ∈ before, notText (value? b) = false) → value? c = some v → v.text? = none →
    w.addRow row t =
      ⟨.error (.invalidArgument (.notText c w.indexName v.typeName)), w, t, []⟩
  /-- If there are no texts and nothing else, the row is skipped, without a call. -/
  skipped : (∀ c ∈ w.columns, notText (value? c) = false) → textsOf value? w.columns = [] →
    w.addRow row t = ⟨.ok (), { w with rowsSkipped := w.rowsSkipped + 1 }, t, []⟩
  /-- If there are texts and nothing else, they are handed over in one call, and the answer to it
  is returned. -/
  handed_over : (∀ c ∈ w.columns, notText (value? c) = false) → textsOf value? w.columns ≠ [] →
    (w.addRow row t).answer = (engine.addDocument (textsOf value? w.columns) t.host).1 ∧
      (w.addRow row t).world = ⟨(engine.addDocument (textsOf value? w.columns) t.host).2,
        t.calls ++ [.addDocument (textsOf value? w.columns)]⟩

theorem forwards_of_traced {w : Writer (Traced ω)} {engine : EngineWriter ω} (row : Row)
    {value? : String → Option Value} (hopen : w.isClosed = false)
    (hengine : w.engine = engine.traced) (hvalue : ∀ c ∈ w.columns, row.get? c = value? c)
    (t : Traced ω) : w.Forwards engine row value? t := by
  have htexts : textsOf row.get? w.columns = textsOf value? w.columns := textsOf_congr hvalue
  have hother : ∀ cs, cs ⊆ w.columns → (∀ c ∈ cs, notText (value? c) = false) →
      ∀ c ∈ cs, notText (row.get? c) = false := by
    intro cs hsub h c hc
    rw [hvalue c (hsub hc)]
    exact h c hc
  refine ⟨fun before c after v hw hbefore hc hv => ?_, fun h hempty => ?_, fun h hne => ?_⟩
  · refine addRow_of_notText hopen hw (hother before ?_ hbefore) ?_ hv
    · rw [hw]
      exact List.subset_append_left _ _
    · rw [hvalue c (by rw [hw]; simp), hc]
  · exact addRow_of_no_texts hopen (hother _ (List.Subset.refl _) h) (htexts.trans hempty)
  · rw [← htexts] at hne ⊢
    have hstep := addRow_of_texts hopen (hother _ (List.Subset.refl _) h) hne (s := t)
    rw [hengine, EngineWriter.addDocument_traced] at hstep
    exact hstep

/-- Of a row, the engine receives at most a document, with columns of the writer only. -/
theorem exists_calls_addRow {w : Writer (Traced ω)} {engine : EngineWriter ω}
    (hopen : w.isClosed = false) (hengine : w.engine = engine.traced) (row : Row) (t : Traced ω) :
    (w.addRow row t).world.calls = t.calls ∨
      ∃ doc : Document, (w.addRow row t).world.calls = t.calls ++ [.addDocument doc] ∧
        (doc.map Prod.fst).Sublist w.columns := by
  have h := forwards_of_traced row hopen hengine (fun _ _ => rfl) t
  rcases forall_or_exists_first_notText row.get? w.columns with
    hall | ⟨before, c, after, v, hw, hbefore, hc, hv⟩
  · by_cases hempty : textsOf row.get? w.columns = []
    · exact Or.inl (by rw [h.skipped hall hempty])
    · refine Or.inr ⟨textsOf row.get? w.columns, by rw [(h.handed_over hall hempty).2], ?_⟩
      rw [map_fst_textsOf]
      exact List.filter_sublist
  · exact Or.inl (by rw [h.refused before c after v hw hbefore hc hv])

/-- Whatever is done with a writer, every document that its engine receives for it has columns of
the writer only, in their order. -/
theorem exists_calls_perform {w : Writer (Traced ω)} {engine : EngineWriter ω}
    (hengine : w.engine = engine.traced) (op : WriterOp) (t : Traced ω) :
    ∃ new, (w.perform op t).world.calls = t.calls ++ new ∧
      ∀ doc, .addDocument doc ∈ new → (doc.map Prod.fst).Sublist w.columns := by
  cases hclosed : w.isClosed with
  | true =>
    refine ⟨[], ?_, nofun⟩
    cases op <;> simp [perform, addRow, flush, close, hclosed]
  | false =>
    cases op with
    | addRow row =>
      rw [perform]
      rcases exists_calls_addRow hclosed hengine row t with h | ⟨doc, h, hdoc⟩
      · exact ⟨[], by rw [h, List.append_nil], nofun⟩
      · refine ⟨_, h, fun doc' hmem => ?_⟩
        cases List.mem_singleton.1 hmem
        exact hdoc
    | flush =>
      refine ⟨[.flush], ?_, by simp⟩
      rw [perform, flush, hclosed, hengine]
      rfl
    | close =>
      refine ⟨[.close], ?_, by simp⟩
      rw [perform, close, hclosed, hengine]
      rfl

end Writer

/-! ## From a definition to the engine -/

namespace Manager

/-- **From a definition to the engine.**  A definition was accepted for a table with this schema,
and a row is given to an open writer of the manager.  The columns of the writer are the entries of
the definition, in order and all different, and each is the lowercased name of a column of the
schema that holds plain strings, stored as they are.  For each of them the value counts that was
added last under any spelling of its name: the first one that is not a text is refused, and if there
is none the engine receives the texts, if any, in one document.  No other field ever reaches the
engine. -/
theorem addRow_exact {s : Setup (Traced ω)} {schema : TableSchema} {e : Engine ω}
    (hschema : s.schema? = some schema.resolve) (hengine : s.engine? = some e.traced)
    {table : TableId} {d : Definition} {m : Manager (Traced ω)} {log : List LogRecord}
    (hm : s.initialize table d = .ok ⟨m, log⟩) {w : Writer (Traced ω)} (hw : m.HasWriter w)
    (hopen : w.isClosed = false) (fields : List (String × Value)) (t : Traced ω) :
    w.indexName = d.indexName ∧
    (∃ raw, d.property? s.config.propertyKey = some raw ∧ IsEntries raw w.columns) ∧
    w.columns.Nodup ∧
    (∀ c ∈ w.columns, ∃ column, schema.resolve table c = some column ∧
      lowercase column.name = c ∧ column.dataType = .string ∧
      Encoding.dictionary ∉ column.encodings) ∧
    (∃ engine : EngineWriter ω, w.engine = engine.traced ∧
      w.Forwards engine (.ofFields fields) (Row.lastValue fields) t) ∧
    (∀ c text, (c, text) ∈ textsOf (Row.lastValue fields) w.columns ↔
      c ∈ w.columns ∧ Row.lastValue fields c = some (.text text)) ∧
    ((textsOf (Row.lastValue fields) w.columns).map Prod.fst).Sublist w.columns ∧
    ∀ (op : WriterOp) (t : Traced ω), ∃ new,
      (w.perform op t).world.calls = t.calls ++ new ∧
      ∀ doc, .addDocument doc ∈ new → (doc.map Prod.fst).Sublist w.columns := by
  obtain ⟨hlist, hnodup, hlower⟩ := columns_of_initialize hm
  obtain ⟨_, _, _, _, _, -, -, -, he, -, -, hmade⟩ := initialize_eq_ok_iff.1 ⟨log, hm⟩
  rw [hengine] at he
  cases he
  obtain ⟨engine, htraced⟩ := hw.exists_traced (congrArg Manager.engine hmade)
  have hname : m.indexName = d.indexName := congrArg Manager.indexName hmade
  have hbinds := hw.binds
  rw [hbinds.columns_eq, hbinds.indexName_eq]
  refine ⟨hname, hlist, hnodup, fun c hc => exists_column_of_initialize hschema hm hc, ?_,
    fun c text => mem_textsOf, ?_, fun op t => ?_⟩
  · refine ⟨engine, htraced, Writer.forwards_of_traced _ hopen htraced (fun c hc => ?_) t⟩
    rw [Row.get?_ofFields, hlower c (hbinds.columns_eq ▸ hc)]
  · rw [map_fst_textsOf]
    exact List.filter_sublist
  · rw [← hbinds.columns_eq]
    exact Writer.exists_calls_perform htraced op t

/-- The spellings of a name differ between the list, the schema and the row, one column has no value
and one has two of them. -/
theorem addRow_exact_of_spellings :
    let columns := ["city", "comment", "i\u0307d"]
    let schema := TableSchema.ofColumns "Orders"
      [.ofStrings "COMMENT", .ofStrings "City", ⟨"amount", .int, []⟩, .ofStrings "İd"]
    let table : TableId := ⟨"orders", ⟨"/t"⟩⟩
    let d := Definition.withProperty ⟨"idx", ∅⟩ textColumnsKey " City,comment ,İD"
    let m : Manager (Traced Unit) := .bare table "idx" columns Engine.accepting.traced
    let fields : List (String × Value) :=
      [("amount", .int 3), ("CITY", .int 4), ("ciTY", .text "Bonn"), ("İD", .text "7")]
    ∃ log w, Setup.initialize (m.services schema.resolve) table d = .ok ⟨m, log⟩ ∧ m.HasWriter w ∧
      (w.addRow (.ofFields fields) ⟨(), []⟩).world.calls =
        [.addDocument [("city", "Bonn"), ("i\u0307d", "7")]] ∧
      (w.addRow (.ofFields (fields.take 2)) ⟨(), []⟩).answer =
        .error (.invalidArgument (.notText "city" "idx" "int")) := by
  intro columns schema table d m fields
  have htexts : ∀ c ∈ columns, (schema.resolve table c).any Column.isText = true := by
    decide +kernel
  have hcolumns : validateColumns textColumnsKey d.properties table schema.resolve =
      .ok columns := by
    refine validateColumns_eq_ok_iff.2 ⟨" City,comment ,İD", by decide +kernel, by decide +kernel,
      by decide +kernel, by decide +kernel, by decide +kernel, fun c hc => ?_⟩
    exact (Option.any_eq_true _ _).1 (htexts c hc)
  obtain ⟨log, hm⟩ := m.exists_initialize_services rfl (by decide +kernel) hcolumns
  have hengine : (m.services schema.resolve).engine? =
      some (Engine.accepting : Engine Unit).traced := rfl
  let w : Writer (Traced Unit) := .bare table "idx" columns EngineWriter.accepting.traced
  have hw : m.HasWriter w := .opened (rfl : (m.openWriter w.segment w.outputDir ⟨(), []⟩).value = _)
  have hdoc : textsOf (Row.lastValue fields) columns = [("city", "Bonn"), ("i\u0307d", "7")] := by
    decide +kernel
  have hcity : lowercase "CITY" = "city" := by decide +kernel
  have hvalue : Row.lastValue (fields.take 2) "city" = some (.int 4) := by
    simp [Row.lastValue, fields, hcity]
  refine ⟨log, w, hm, hw, ?_, ?_⟩
  · obtain ⟨-, -, -, -, ⟨_, -, hrow⟩, -⟩ := addRow_exact rfl hengine hm hw rfl fields ⟨(), []⟩
    have hne : textsOf (Row.lastValue fields) columns ≠ [] := by
      rw [hdoc]
      exact List.cons_ne_nil _ _
    rw [(hrow.handed_over (by decide +kernel) hne).2]
    exact congrArg (fun doc => [EngineCall.addDocument doc]) hdoc
  · obtain ⟨-, -, -, -, ⟨_, -, hrow⟩, -⟩ :=
      addRow_exact rfl hengine hm hw rfl (fields.take 2) ⟨(), []⟩
    rw [hrow.refused [] "city" _ (.int 4) rfl nofun hvalue rfl]
    rfl

end Manager
end IndexShards
