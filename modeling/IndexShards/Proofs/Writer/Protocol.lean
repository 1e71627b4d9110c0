import IndexShards.Proofs.Runs
import IndexShards.Proofs.Writer.Rows

/-!
# What a writer and its engine say to each other

A writer stands between a write task and an engine that may fail at any call.  Rows that can be
indexed, flushes and the first close go through to the engine, and its answers come back as they
are.  A failure changes nothing in this: a row that was refused is not sent again, and a close that
failed has closed the writer all the same.  After that the writer answers alone.

## What is here

* `EngineWriter.take` — the engine takes a call.
* `callOf?`, `callsFor` — the call that an operation is to make on an open writer, and all calls of
  a run.
* `perform_of_call`, `perform_of_no_call`, `perform_of_closed` — one operation, on an open writer
  and on a closed one.
* `world_run` — **the host is left as if the engine had been given those calls and no others**.
* `run_protocol` — the calls and the answers of a run of any length.
-/

set_option autoImplicit false

namespace IndexShards

variable {ω : Type}

/-! ## Calls and operations -/

/-- The engine takes a call.  A writer of the engine is open already, so that the call to open one
does nothing. -/
def EngineWriter.take (e : EngineWriter ω) (s : ω) : EngineCall → Except Error Unit × ω
  | .openWriter _ _ _ => (.ok (), s)
  | .addDocument fields => e.addDocument fields s
  | .flush => e.flush s
  | .close => e.close s

/-- The operation is a close. -/
def WriterOp.isClose : WriterOp → Bool
  | close => true
  | _ => false

/-- The call that an operation is to make on an open writer with these columns.  A row makes one if
it has a text for some column and nothing else for any. -/
def callOf? (columns : List String) : WriterOp → Option EngineCall
  | .addRow row =>
    if (∀ c ∈ columns, notText (row.get? c) = false) ∧ textsOf row.get? columns ≠ [] then
      some (.addDocument (textsOf row.get? columns))
    else none
  | .flush => some .flush
  | .close => some .close

/-- The calls that a run is to make on an open writer: those of the operations before the first
close, and one close if there is any. -/
def callsFor (columns : List String) (ops : List WriterOp) : List EngineCall :=
  (ops.takeWhile fun op => !op.isClose).filterMap (callOf? columns) ++
    if ops.any WriterOp.isClose then [.close] else []

theorem callsFor_close (columns : List String) (ops : List WriterOp) :
    callsFor columns (.close :: ops) = [.close] := by
  simp [callsFor, WriterOp.isClose]

theorem callsFor_cons {op : WriterOp} (h : op.isClose = false) (columns : List String)
    (ops : List WriterOp) :
    callsFor columns (op :: ops) = (callOf? columns op).toList ++ callsFor columns ops := by
  rw [callsFor, callsFor, List.takeWhile_cons_of_pos (by simp [h]), List.any_cons, h,
    Bool.false_or, List.filterMap_cons]
  cases callOf? columns op <;> rfl

namespace Writer

/-! ## One operation -/

section Operation

variable {w : Writer (Traced ω)} {engine : EngineWriter ω} {op : WriterOp}

/-- A call goes through to the engine, and its answer comes back. -/
theorem perform_of_call (hopen : w.isClosed = false) (hengine : w.engine = engine.traced)
    {call : EngineCall} (h : callOf? w.columns op = some call) (t : Traced ω) :
    (w.perform op t).answer = (engine.take t.host call).1 ∧
      (w.perform op t).world = ⟨(engine.take t.host call).2, t.calls ++ [call]⟩ := by
  cases op with
  | addRow row =>
    rw [callOf?] at h
    split at h
    · next htexts =>
      cases h
      exact (forwards_of_traced row hopen hengine (fun _ _ => rfl) t).handed_over htexts.1 htexts.2
    · cases h
  | flush =>
    cases h
    rw [perform, flush, hopen, hengine]
    exact ⟨rfl, rfl⟩
  | close =>
    cases h
    rw [perform, close, hopen, hengine]
    exact ⟨rfl, rfl⟩

/-- An operation that makes no call leaves the host alone. -/
theorem perform_of_no_call (hopen : w.isClosed = false) (hengine : w.engine = engine.traced)
    (h : callOf? w.columns op = none) (t : Traced ω) : (w.perform op t).world = t := by
  cases op with
  | addRow row =>
    have hforwards := forwards_of_traced row hopen hengine (fun _ _ => rfl) t
    rw [perform]
    rcases forall_or_exists_first_notText row.get? w.columns with
      hall | ⟨before, c, after, v, hw, hbefore, hc, hv⟩
    · by_cases hempty : textsOf row.get? w.columns = []
      · rw [hforwards.skipped hall hempty]
      · rw [callOf?, if_pos ⟨hall, hempty⟩] at h
        cases h
    · rw [hforwards.refused before c after v hw hbefore hc hv]
  | flush => cases h
  | close => cases h

end Operation

variable {w : Writer ω} {op : WriterOp}

/-- A closed writer answers alone: a close is fine, and everything else is refused. -/
theorem perform_of_closed (h : w.isClosed = true) (op : WriterOp) (s : ω) :
    w.perform op s = ⟨if op.isClose then .ok () else .error w.closedError, w, s, []⟩ := by
  cases op with
  | addRow row => rw [perform, addRow, if_pos h]; rfl
  | flush => rw [perform, flush, if_pos h]; rfl
  | close => rw [perform, close, if_pos h]; rfl

theorem isClosed_addRow (w : Writer ω) (row : Row) (s : ω) :
    (w.addRow row s).writer.isClosed = w.isClosed := by
  rw [addRow]
  repeat' split
  all_goals rfl

theorem isClosed_flush (w : Writer ω) (s : ω) : (w.flush s).writer.isClosed = w.isClosed := by
  rw [flush]
  split <;> rfl

/-- A close closes the writer, and nothing else does; nothing opens it again. -/
theorem isClosed_perform (w : Writer ω) (op : WriterOp) (s : ω) :
    (w.perform op s).writer.isClosed = (w.isClosed || op.isClose) := by
  cases op with
  | addRow row => exact (w.isClosed_addRow row s).trans (Bool.or_false _).symm
  | flush => exact (w.isClosed_flush s).trans (Bool.or_false _).symm
  | close => exact (w.close_isClosed s).trans (Bool.or_true _).symm

/-! ## Runs -/

/-- An operation on a writer, in the state that goes with it. -/
def step (x : Writer ω × ω) (op : WriterOp) : Except Error Unit × Writer ω × ω :=
  ((x.1.perform op x.2).answer, (x.1.perform op x.2).writer, (x.1.perform op x.2).world)

/-- What a run leaves of a writer: the counts may have changed, and it is closed if there was a
close. -/
theorem exists_run_writer_eq (w : Writer ω) (ops : List WriterOp) (s : ω) :
    ∃ added skipped, (runCalls step (w, s) ops).2.1 =
      { w with rowsAdded := added, rowsSkipped := skipped,
               isClosed := w.isClosed || ops.any WriterOp.isClose } := by
  induction ops generalizing w s with
  | nil => exact ⟨w.rowsAdded, w.rowsSkipped, by simp [runCalls]⟩
  | cons op ops ih =>
    obtain ⟨added, skipped, hrun⟩ := ih (w.perform op s).writer (w.perform op s).world
    have hclosed := isClosed_perform w op s
    obtain ⟨added', skipped', closed, hstep⟩ := w.exists_perform_writer_eq op s
    refine ⟨added, skipped, ?_⟩
    rw [runCalls]
    refine hrun.trans ?_
    rw [hclosed, hstep, List.any_cons, Bool.or_assoc]

/-- A closed writer leaves the host alone. -/
theorem run_of_closed (h : w.isClosed = true) (ops : List WriterOp) (s : ω) :
    (runCalls step (w, s) ops).2 = (w, s) := by
  refine runCalls_induction (P := fun x => x = (w, s)) rfl (fun x op hx => ?_) ops
  rw [hx, step, perform_of_closed h]

/-- **The host is left as if the engine had been given the calls of the run and no others.** -/
theorem world_run {w : Writer (Traced ω)} {engine : EngineWriter ω}
    (hopen : w.isClosed = false) (hengine : w.engine = engine.traced) (ops : List WriterOp)
    (t : Traced ω) : (runCalls step (w, t) ops).2.2 =
      ⟨(runCalls engine.take t.host (callsFor w.columns ops)).2,
        t.calls ++ callsFor w.columns ops⟩ := by
  induction ops generalizing w t with
  | nil => simp [runCalls, callsFor]
  | cons op ops ih =>
    obtain ⟨added, skipped, closed, hstep⟩ := w.exists_perform_writer_eq op t
    have hclosed := isClosed_perform w op t
    rw [hopen, Bool.false_or] at hclosed
    have hcolumns : (w.perform op t).writer.columns = w.columns := by rw [hstep]
    have hengine' : (w.perform op t).writer.engine = engine.traced := by rw [hstep]; exact hengine
    rw [runCalls]
    cases hc : op.isClose with
    | true =>
      -- the first close: the call goes through, and what follows meets a closed writer
      obtain rfl : op = .close := by cases op <;> simp_all [WriterOp.isClose]
      rw [step, run_of_closed (hclosed.trans hc), (perform_of_call hopen hengine rfl t).2,
        callsFor_close]
      rfl
    | false =>
      rw [callsFor_cons hc]
      refine (ih (hclosed.trans hc) hengine' (w.perform op t).world).trans ?_
      rw [hcolumns]
      cases hcall : callOf? w.columns op with
      | none =>
        rw [perform_of_no_call hopen hengine hcall]
        rfl
      | some call =>
        rw [(perform_of_call hopen hengine hcall t).2, runCalls_append, List.append_assoc]
        rfl

/-- **A writer and its engine.**  Operations are done with an open writer, of which any may fail.
The engine receives a document for every row before the first close that has a text for some indexed
column and nothing else for any, a flush for every flush before the first close, and one close if
there is any, in the order of the operations; it receives nothing more.  What is sent is answered as
the engine answers it, in the state that the calls before it have led to.  After the first close,
whatever came of it, a close is fine and everything else is refused as an invalid argument. -/
theorem run_protocol {w : Writer (Traced ω)} {engine : EngineWriter ω}
    (hopen : w.isClosed = false) (hengine : w.engine = engine.traced) (ops : List WriterOp)
    (t : Traced ω) :
    (runCalls step (w, t) ops).2.2.calls = t.calls ++ callsFor w.columns ops ∧
    ∀ before op after, ops = before ++ op :: after →
      ∃ answer, (runCalls step (w, t) ops).1[before.length]? = some answer ∧
        (before.any WriterOp.isClose = false → ∀ call, callOf? w.columns op = some call →
          answer =
            (engine.take (runCalls engine.take t.host (callsFor w.columns before)).2 call).1) ∧
        (before.any WriterOp.isClose = true → op.isClose = false →
          ∃ cause, answer = .error (.invalidArgument cause)) ∧
        (before.any WriterOp.isClose = true → op.isClose = true → answer = .ok ()) := by
  refine ⟨by rw [world_run hopen hengine], fun before op after hops => ?_⟩
  have hworld := world_run hopen hengine before t
  obtain ⟨added, skipped, hwriter⟩ := exists_run_writer_eq w before t
  have hstate : (runCalls step (w, t) before).2.1.isClosed = before.any WriterOp.isClose := by
    rw [hwriter, hopen, Bool.false_or]
  have hcolumns : (runCalls step (w, t) before).2.1.columns = w.columns := by rw [hwriter]
  have hengine' : (runCalls step (w, t) before).2.1.engine = engine.traced := by
    rw [hwriter]
    exact hengine
  refine ⟨_, hops ▸ getElem?_runCalls step (w, t) before after op, fun hfirst call hcall => ?_,
    fun hclosed hc => ?_, fun hclosed hc => ?_⟩
  · rw [← hcolumns] at hcall
    rw [step, (perform_of_call (hstate.trans hfirst) hengine' hcall _).1, hworld]
  · rw [step, perform_of_closed (hstate.trans hclosed), hc]
    exact ⟨_, rfl⟩
  · rw [step, perform_of_closed (hstate.trans hclosed), hc]
    rfl

/-- An engine that fails at every second call.  The second row is refused before
it gets there and the third is skipped; the flush fails; the first close fails and is the last call
of all. -/
theorem run_protocol_of_failing_engine :
    let w : Writer (Traced Bool) := .bare ⟨"t", ⟨"/t"⟩⟩ "a" ["x"] EngineWriter.unsteady.traced
    let row : Row := .ofFields [("X", .text "words")]
    let ops : List WriterOp := [.addRow row, .flush, .addRow (.ofFields [("x", .int 1)]),
      .addRow .empty, .addRow row, .close, .addRow row, .close]
    let out := runCalls step (w, ⟨false, []⟩) ops
    out.2.2.calls = [.addDocument [("x", "words")], .flush, .addDocument [("x", "words")], .close] ∧
      out.1[5]? = some (.error (.storage (.other "disk full"))) ∧ out.1[7]? = some (.ok ()) := by
  intro w row ops out
  obtain ⟨hcalls, hanswers⟩ := run_protocol (w := w) rfl rfl ops ⟨false, []⟩
  refine ⟨hcalls.trans (by decide +kernel), ?_, ?_⟩
  · have hbefore : callsFor w.columns (ops.take 5) =
        [.addDocument [("x", "words")], .flush, .addDocument [("x", "words")]] := by
      decide +kernel
    obtain ⟨answer, hanswer, hsent, -⟩ := hanswers (ops.take 5) .close (ops.drop 6) rfl
    refine hanswer.trans (congrArg some ?_)
    rw [hsent (by decide +kernel) .close rfl, hbefore]
    rfl
  · obtain ⟨answer, hanswer, -, -, hclose⟩ := hanswers (ops.take 7) .close [] rfl
    exact hanswer.trans (congrArg some (hclose (by decide +kernel) rfl))

end Writer
end IndexShards
