import IndexShards.Proofs.Writer.Protocol

/-!
# What a writer counts

A writer counts the rows that its engine took and the rows that it skipped.  A row can come to five
ends: the writer is closed, a value is not a text, there is no value at all, the engine fails, or
the engine takes the document.  Only the third and the last of them count, each in its own way, so
the counts can be read off the operations and the answers of the engine, whatever fails in
between.

The counts are numbers without a bound.  They never exceed the number of rows, so a run of fewer
than 2^64 rows keeps them within sixty-four bits.

## What is here

* `Answered` — a host that keeps the calls to its engine together with the answers;
  `EngineWriter.answered` — a writer of the engine over it.
* `Writer.RowEnd` — the five ends; `rowEnd_addRow` says that there are no others.
* `vacantRows`, `acceptedRows`, `documentsTaken` — what is counted.
* `Writer.Books` — how the counts have moved; `books_perform` for one operation and `books_run` for
  a run.
* `Writer.run_accounts` — **the counts of every state that a new writer can be in**.
-/

set_option autoImplicit false

namespace IndexShards

variable {ω : Type}

/-! ## A host that keeps the answers -/

/-- A call that an engine received, and what it answered. -/
abbrev Exchange := EngineCall × Except Error Unit

/-- The state of a host, and what was said between a writer and its engine. -/
structure Answered (ω : Type) where
  host : ω
  exchanges : List Exchange := []

/-- Makes a call and keeps it with the answer. -/
def Answered.exchange (call : EngineCall) (f : ω → Except Error Unit × ω) (r : Answered ω) :
    Except Error Unit × Answered ω :=
  ((f r.host).1, ⟨(f r.host).2, r.exchanges ++ [(call, (f r.host).1)]⟩)

theorem Answered.exchanges_of_exchange {call : EngineCall} {f : ω → Except Error Unit × ω}
    {r r' : Answered ω} {answer : Except Error Unit} (h : exchange call f r = (answer, r')) :
    r'.exchanges = r.exchanges ++ [(call, answer)] := by
  cases h
  rfl

/-- The same writer, with every call and its answer kept. -/
def EngineWriter.answered (e : EngineWriter ω) : EngineWriter (Answered ω) where
  addDocument fields := Answered.exchange (.addDocument fields) (e.addDocument fields)
  flush := Answered.exchange .flush e.flush
  close := Answered.exchange .close e.close

/-! ## What is counted -/

/-- The engine took a document. -/
def isTaken : Exchange → Bool
  | (.addDocument _, answer) => answer.isOk
  | _ => false

/-- The documents that the engine took. -/
def documentsTaken (exchanges : List Exchange) : Nat := exchanges.countP isTaken

/-- The operation adds a row that has no value for any of the columns. -/
def WriterOp.isVacant (columns : List String) : WriterOp → Bool
  | addRow row => columns.all fun c => (row.get? c).isNone
  | _ => false

/-- The rows without a value for any of the columns that are added before the first close. -/
def vacantRows (columns : List String) (ops : List WriterOp) : Nat :=
  (ops.takeWhile fun op => !op.isClose).countP (WriterOp.isVacant columns)

/-- The operation adds a row, and the answer is not an error. -/
def isAccepted : WriterOp × Except Error Unit → Bool
  | (.addRow _, answer) => answer.isOk
  | _ => false

/-- The rows that were accepted, in a run with these answers. -/
def acceptedRows (ops : List WriterOp) (answers : List (Except Error Unit)) : Nat :=
  (ops.zip answers).countP isAccepted

theorem vacantRows_cons {op : WriterOp} (h : op.isClose = false) (columns : List String)
    (ops : List WriterOp) : vacantRows columns (op :: ops) =
      (op.isVacant columns).toNat + vacantRows columns ops := by
  rw [vacantRows, List.takeWhile_cons_of_pos (by simp [h]), List.countP_cons, Nat.add_comm]
  cases op.isVacant columns <;> rfl

theorem acceptedRows_cons (op : WriterOp) (answer : Except Error Unit) (ops : List WriterOp)
    (answers : List (Except Error Unit)) :
    acceptedRows (op :: ops) (answer :: answers) =
      (isAccepted (op, answer)).toNat + acceptedRows ops answers := by
  rw [acceptedRows, List.zip_cons_cons, List.countP_cons, Nat.add_comm]
  cases isAccepted (op, answer) <;> rfl

/-- No more rows are accepted than there are operations. -/
theorem acceptedRows_le (ops : List WriterOp) (answers : List (Except Error Unit)) :
    acceptedRows ops answers ≤ ops.length := by
  refine Nat.le_trans List.countP_le_length ?_
  rw [List.length_zip]
  exact Nat.min_le_left _ _

/-! ## The ends of a row -/

/-- If no value is anything but a text, there are no texts only where there are no values. -/
theorem textsOf_eq_nil_iff {value? : String → Option Value} {columns : List String}
    (h : ∀ c ∈ columns, notText (value? c) = false) :
    textsOf value? columns = [] ↔ ∀ c ∈ columns, value? c = none := by
  constructor
  · intro hempty c hc
    refine (notText_eq_false_iff.1 (h c hc)).resolve_right ?_
    rintro ⟨text, htext⟩
    have hmem := mem_textsOf.2 ⟨hc, htext⟩
    rw [hempty] at hmem
    cases hmem
  · intro hnone
    refine List.eq_nil_iff_forall_not_mem.2 fun ⟨c, text⟩ hmem => ?_
    obtain ⟨hc, htext⟩ := mem_textsOf.1 hmem
    rw [hnone c hc] at htext
    cases htext

namespace Writer

/-- What can come of a row. -/
inductive RowEnd (w : Writer ω) (row : Row) (s : ω) : WriterStep ω → Prop where
  /-- The writer is closed. -/
  | closed (h : w.isClosed = true) : RowEnd w row s ⟨.error w.closedError, w, s, []⟩
  /-- A column has a value that is not a text. -/
  | refused {cause : ArgumentError} (hopen : w.isClosed = false)
      (h : ∃ c ∈ w.columns, notText (row.get? c) = true) :
      RowEnd w row s ⟨.error (.invalidArgument cause), w, s, []⟩
  /-- No column has a value. -/
  | skipped (hopen : w.isClosed = false) (h : ∀ c ∈ w.columns, row.get? c = none) :
      RowEnd w row s ⟨.ok (), { w with rowsSkipped := w.rowsSkipped + 1 }, s, []⟩
  /-- Some column has a value, all of them are texts, and the engine fails. -/
  | failed {doc : Document} {e : Error} {s' : ω} (hopen : w.isClosed = false)
      (htexts : ∀ c ∈ w.columns, notText (row.get? c) = false)
      (h : ¬∀ c ∈ w.columns, row.get? c = none)
      (hdoc : w.engine.addDocument doc s = (.error e, s')) : RowEnd w row s ⟨.error e, w, s', []⟩
  /-- The same, and the engine takes the document. -/
  | added {doc : Document} {s' : ω} (hopen : w.isClosed = false)
      (htexts : ∀ c ∈ w.columns, notText (row.get? c) = false)
      (h : ¬∀ c ∈ w.columns, row.get? c = none)
      (hdoc : w.engine.addDocument doc s = (.ok (), s')) :
      RowEnd w row s ⟨.ok (), { w with rowsAdded := w.rowsAdded + 1 }, s', []⟩

/-- **There are no other ends.** -/
theorem rowEnd_addRow (w : Writer ω) (row : Row) (s : ω) : RowEnd w row s (w.addRow row s) := by
  cases hclosed : w.isClosed with
  | true =>
    rw [addRow, if_pos hclosed]
    exact .closed hclosed
  | false =>
    rcases forall_or_exists_first_notText row.get? w.columns with
      hall | ⟨before, c, after, v, hw, hbefore, hc, hv⟩
    · have hnone := textsOf_eq_nil_iff hall
      by_cases hempty : textsOf row.get? w.columns = []
      · rw [addRow_of_no_texts hclosed hall hempty]
        exact .skipped hclosed (hnone.1 hempty)
      · have hsome := mt hnone.2 hempty
        rw [addRow, if_neg (by simp [hclosed]), documentOf_of_texts hall]
        cases htexts : textsOf row.get? w.columns with
        | nil => exact absurd htexts hempty
        | cons field fields =>
          rcases hanswer : w.engine.addDocument (field :: fields) s with ⟨answer, s'⟩
          cases answer with
          | ok u =>
            simp only [hanswer]
            exact .added hclosed hall hsome hanswer
          | error e =>
            simp only [hanswer]
            exact .failed hclosed hall hsome hanswer
    · rw [addRow_of_notText hclosed hw hbefore hc hv]
      refine .refused hclosed ⟨c, by rw [hw]; simp, ?_⟩
      exact notText_eq_true_iff.2 ⟨v, hc, hv⟩

/-- The writer does not ask its engine about the row: it is closed, or a column has a value that is
not a text. -/
def Refuses (w : Writer ω) (row : Row) : Prop :=
  w.isClosed = true ∨ ∃ c ∈ w.columns, notText (row.get? c) = true

theorem not_refuses {w : Writer ω} {row : Row} (hopen : w.isClosed = false)
    (h : ∀ c ∈ w.columns, notText (row.get? c) = false) : ¬w.Refuses row := by
  rintro (hc | ⟨c, hc, hv⟩)
  · rw [hopen] at hc
    cases hc
  · rw [h c hc] at hv
    cases hv

/-- A row that is answered with an error leaves the writer as it was. -/
theorem writer_addRow_of_error {w : Writer ω} {row : Row} {s : ω} {e : Error}
    (h : (w.addRow row s).answer = .error e) : (w.addRow row s).writer = w := by
  have hend := rowEnd_addRow w row s
  generalize w.addRow row s = out at hend h ⊢
  cases hend with
  | closed => rfl
  | refused => rfl
  | skipped => cases h
  | failed => rfl
  | added => cases h

/-- A row that the writer refuses is an invalid argument, and changes nothing at all. -/
theorem addRow_of_refuses {w : Writer ω} {row : Row} (h : w.Refuses row) (s : ω) :
    (∃ cause, (w.addRow row s).answer = .error (.invalidArgument cause)) ∧
      (w.addRow row s).world = s := by
  have hend := rowEnd_addRow w row s
  generalize w.addRow row s = out at hend ⊢
  cases hend with
  | closed => exact ⟨⟨_, rfl⟩, rfl⟩
  | refused => exact ⟨⟨_, rfl⟩, rfl⟩
  | skipped hopen hnone =>
    refine absurd h (not_refuses hopen fun c hc => ?_)
    rw [hnone c hc]
    rfl
  | failed hopen htexts => exact absurd h (not_refuses hopen htexts)
  | added hopen htexts => exact absurd h (not_refuses hopen htexts)

/-! ## How the counts move -/

/-- From the writer `w` to the writer `w'` the counts have moved by the documents among
`exchanges` that were taken and by `vacant` rows, which makes `accepted` rows together. -/
structure Books (w w' : Writer ω) (exchanges : List Exchange) (vacant accepted : Nat) : Prop where
  added_eq : w'.rowsAdded = w.rowsAdded + documentsTaken exchanges
  skipped_eq : w'.rowsSkipped = w.rowsSkipped + vacant
  accepted_eq : documentsTaken exchanges + vacant = accepted

theorem Books.refl (w : Writer ω) : Books w w [] 0 0 := ⟨rfl, rfl, rfl⟩

theorem Books.trans {w w' w'' : Writer ω} {xs ys : List Exchange} {m n a b : Nat}
    (h : Books w w' xs m a) (k : Books w' w'' ys n b) : Books w w'' (xs ++ ys) (m + n) (a + b) := by
  have happend : documentsTaken (xs ++ ys) = documentsTaken xs + documentsTaken ys :=
    List.countP_append
  obtain ⟨hadded, hskipped, haccepted⟩ := h
  obtain ⟨kadded, kskipped, kaccepted⟩ := k
  constructor <;> omega

section Counts

variable {w : Writer (Answered ω)} {engine : EngineWriter ω}

/-- What a row does to the counts. -/
theorem books_addRow (hengine : w.engine = engine.answered) (row : Row) (r : Answered ω) :
    ∃ exchanges, (w.addRow row r).world.exchanges = r.exchanges ++ exchanges ∧
      Books w (w.addRow row r).writer exchanges
        (!w.isClosed && (WriterOp.addRow row).isVacant w.columns).toNat
        (w.addRow row r).answer.isOk.toNat := by
  have hvacant : (WriterOp.addRow row).isVacant w.columns = true ↔
      ∀ c ∈ w.columns, row.get? c = none := by
    simp [WriterOp.isVacant]
  have hend := rowEnd_addRow w row r
  generalize w.addRow row r = out at hend ⊢
  cases hend with
  | closed h =>
    rw [h]
    exact ⟨[], (List.append_nil _).symm, .refl w⟩
  | refused hopen h =>
    obtain ⟨c, hc, hv⟩ := h
    have hnot : (WriterOp.addRow row).isVacant w.columns = false := by
      rw [← Bool.not_eq_true, hvacant]
      intro hnone
      rw [hnone c hc] at hv
      cases hv
    rw [hopen, hnot]
    exact ⟨[], (List.append_nil _).symm, .refl w⟩
  | skipped hopen h =>
    rw [hopen, hvacant.2 h]
    exact ⟨[], (List.append_nil _).symm, rfl, rfl, rfl⟩
  | failed hopen htexts h hdoc =>
    rw [hengine] at hdoc
    rw [hopen, Bool.eq_false_iff.2 (mt hvacant.1 h)]
    exact ⟨_, Answered.exchanges_of_exchange hdoc, rfl, rfl, rfl⟩
  | added hopen htexts h hdoc =>
    rw [hengine] at hdoc
    rw [hopen, Bool.eq_false_iff.2 (mt hvacant.1 h)]
    exact ⟨_, Answered.exchanges_of_exchange hdoc, rfl, rfl, rfl⟩

/-- What an operation does to the counts. -/
theorem books_perform (hengine : w.engine = engine.answered) (op : WriterOp) (r : Answered ω) :
    ∃ exchanges, (w.perform op r).world.exchanges = r.exchanges ++ exchanges ∧
      Books w (w.perform op r).writer exchanges (!w.isClosed && op.isVacant w.columns).toNat
        (isAccepted (op, (w.perform op r).answer)).toNat := by
  cases hclosed : w.isClosed with
  | true =>
    rw [perform_of_closed hclosed]
    refine ⟨[], (List.append_nil _).symm, ?_⟩
    cases op <;> exact .refl w
  | false =>
    cases op with
    | addRow row =>
      have hrow := books_addRow hengine row r
      rw [hclosed] at hrow
      exact hrow
    | flush =>
      rw [perform, flush, hclosed, hengine]
      exact ⟨_, Answered.exchanges_of_exchange rfl, rfl, rfl, rfl⟩
    | close =>
      rw [perform, close, hclosed, hengine]
      exact ⟨_, Answered.exchanges_of_exchange rfl, rfl, rfl, rfl⟩

/-- What a run does to the counts. -/
theorem books_run (hengine : w.engine = engine.answered) (ops : List WriterOp) (r : Answered ω) :
    ∃ exchanges,
      (runCalls step (w, r) ops).2.2.exchanges = r.exchanges ++ exchanges ∧
      Books w (runCalls step (w, r) ops).2.1 exchanges
        (if w.isClosed then 0 else vacantRows w.columns ops)
        (acceptedRows ops (runCalls step (w, r) ops).1) := by
  induction ops generalizing w r with
  | nil =>
    refine ⟨[], (List.append_nil _).symm, ?_⟩
    rw [show vacantRows w.columns [] = 0 from rfl, ite_self]
    exact .refl w
  | cons op ops ih =>
    obtain ⟨xs, hxs, hbooks⟩ := books_perform hengine op r
    obtain ⟨added, skipped, closed, hstep⟩ := w.exists_perform_writer_eq op r
    have hcolumns : (w.perform op r).writer.columns = w.columns := by rw [hstep]
    have hengine' : (w.perform op r).writer.engine = engine.answered := by rw [hstep]; exact hengine
    obtain ⟨ys, hys, hrest⟩ := ih hengine' (w.perform op r).world
    refine ⟨xs ++ ys, ?_, ?_⟩
    · rw [runCalls, ← List.append_assoc, ← hxs]
      exact hys
    · rw [runCalls, acceptedRows_cons]
      -- what the rest of the run skips depends on whether this operation was a close
      have hvacant : (if w.isClosed then 0 else vacantRows w.columns (op :: ops)) =
          (!w.isClosed && op.isVacant w.columns).toNat +
            if (w.perform op r).writer.isClosed then 0
            else vacantRows (w.perform op r).writer.columns ops := by
        rw [isClosed_perform, hcolumns]
        cases w.isClosed with
        | true => rfl
        | false =>
          cases hc : op.isClose with
          | true =>
            obtain rfl : op = .close := by cases op <;> simp_all [WriterOp.isClose]
            rfl
          | false => exact vacantRows_cons hc w.columns ops
      rw [hvacant]
      exact hbooks.trans hrest

end Counts

/-! ## Every state of a new writer -/

/-- **What a writer counts.**  Operations are done with a new writer, whose engine may fail at any
call.  In the end it has counted as added the documents that its engine took, and as skipped the
rows without a value for any indexed column that it got before it was closed; together these are the
rows that it accepted, of which there are no more than operations.  A row that is then answered with
an error leaves the writer as it is, and if the writer is closed, or the row has a value that is not
a text, the engine is not called either. -/
theorem run_accounts {w : Writer (Answered ω)} {engine : EngineWriter ω}
    (hopen : w.isClosed = false) (hadded : w.rowsAdded = 0) (hskipped : w.rowsSkipped = 0)
    (hengine : w.engine = engine.answered) (ops : List WriterOp) (host : ω)
    {out : List (Except Error Unit) × Writer (Answered ω) × Answered ω}
    (hout : out = runCalls step (w, ⟨host, []⟩) ops) :
    out.2.1.rowsAdded = documentsTaken out.2.2.exchanges ∧
    out.2.1.rowsSkipped = vacantRows w.columns ops ∧
    out.2.1.rowsAdded + out.2.1.rowsSkipped = acceptedRows ops out.1 ∧
    acceptedRows ops out.1 ≤ ops.length ∧
    ∀ row : Row,
      (∀ e, (out.2.1.addRow row out.2.2).answer = .error e →
        (out.2.1.addRow row out.2.2).writer = out.2.1) ∧
      (out.2.1.isClosed = true ∨ (∃ c ∈ w.columns, notText (row.get? c) = true) →
        (∃ cause, (out.2.1.addRow row out.2.2).answer = .error (.invalidArgument cause)) ∧
          (out.2.1.addRow row out.2.2).world = out.2.2) := by
  obtain ⟨exchanges, hexchanges, hbooks⟩ := books_run hengine ops ⟨host, []⟩
  obtain ⟨added, skipped, hwriter⟩ := exists_run_writer_eq w ops (⟨host, []⟩ : Answered ω)
  rw [← hout] at hexchanges hbooks hwriter
  rw [if_neg (by simp [hopen])] at hbooks
  obtain ⟨htaken, hvacant, haccepted⟩ := hbooks
  rw [hadded, Nat.zero_add] at htaken
  rw [hskipped, Nat.zero_add] at hvacant
  refine ⟨?_, hvacant, ?_, acceptedRows_le _ _, fun row => ⟨fun e h => ?_, fun h => ?_⟩⟩
  · rw [hexchanges]
    exact htaken
  · rw [← haccepted, ← htaken, ← hvacant]
  · exact writer_addRow_of_error h
  · have hcolumns : out.2.1.columns = w.columns := by rw [hwriter]
    refine addRow_of_refuses ?_ out.2.2
    rw [Refuses, hcolumns]
    exact h

/-- An engine that fails at every second call.  Of three rows with a text it takes the first and the
third; a row without values is skipped, one with a number in its last column is refused, and so is
everything after the close, which fails. -/
theorem run_accounts_of_failing_engine :
    let w : Writer (Answered Bool) :=
      .bare ⟨"t", ⟨"/t"⟩⟩ "a" ["x", "y"] EngineWriter.unsteady.answered
    let row : Row := .ofFields [("X", .text "words")]
    let mixed : Row := row.addField "y" (.int 1)
    let ops : List WriterOp := [.addRow row, .addRow row, .addRow .empty, .addRow row,
      .addRow mixed, .close, .addRow .empty, .addRow row]
    let out := runCalls step (w, ⟨false, []⟩) ops
    out.2.1.rowsAdded = 2 ∧ out.2.1.rowsSkipped = 1 ∧ acceptedRows ops out.1 = 3 ∧
      (out.2.1.addRow mixed out.2.2).world = out.2.2 := by
  intro w row mixed ops out
  obtain ⟨hadded, hskipped, haccepted, -, hrows⟩ :=
    run_accounts (w := w) rfl rfl rfl rfl ops false
      (show out = runCalls step (w, ⟨false, []⟩) ops from rfl)
  have htaken : documentsTaken out.2.2.exchanges = 2 := by decide +kernel
  have hvacant : vacantRows w.columns ops = 1 := by decide +kernel
  have hclosed : out.2.1.isClosed = true := by decide +kernel
  rw [htaken] at hadded
  rw [hvacant] at hskipped
  exact ⟨hadded, hskipped, by rw [← haccepted, hadded, hskipped],
    ((hrows mixed).2 (Or.inl hclosed)).2⟩

end Writer
end IndexShards
