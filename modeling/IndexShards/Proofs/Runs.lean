/-!
# Runs of calls

A registry, a tree and a writer all keep a state and take calls, one after another.  What a run of
calls does is told in the same way for each of them: what one call answers and changes, and from
that, by induction over the calls, what all of them do.  The part that does not depend on the
service is here.

## What is here

* `runCalls step s calls` — the answers to the calls, in order, and the state in the end.
* `runCalls_append` — a run can be cut anywhere.
* `getElem?_runCalls` — **each answer is the one that the state gives that the calls before it
  lead to**.
* `runCalls_induction` — what every call keeps, the run keeps.
-/

set_option autoImplicit false

namespace IndexShards

variable {σ ι α : Type}

/-- Makes the calls one after another.  The answers are in the order of the calls. -/
def runCalls (step : σ → ι → α × σ) (s : σ) : List ι → List α × σ
  | [] => ([], s)
  | c :: cs =>
    ((step s c).1 :: (runCalls step (step s c).2 cs).1, (runCalls step (step s c).2 cs).2)

theorem runCalls_append (step : σ → ι → α × σ) (s : σ) (cs ds : List ι) :
    runCalls step s (cs ++ ds) =
      ((runCalls step s cs).1 ++ (runCalls step (runCalls step s cs).2 ds).1,
        (runCalls step (runCalls step s cs).2 ds).2) := by
  induction cs generalizing s with
  | nil => rfl
  | cons c cs ih => simp only [List.cons_append, runCalls, ih]

theorem length_runCalls (step : σ → ι → α × σ) (s : σ) (cs : List ι) :
    (runCalls step s cs).1.length = cs.length := by
  induction cs generalizing s with
  | nil => rfl
  | cons c cs ih => simp only [runCalls, List.length_cons, ih]

/-- **Each answer is the one that the state at its turn gives.** -/
theorem getElem?_runCalls (step : σ → ι → α × σ) (s : σ) (before after : List ι) (c : ι) :
    (runCalls step s (before ++ c :: after)).1[before.length]? =
      some (step (runCalls step s before).2 c).1 := by
  have hlength := length_runCalls step s before
  rw [runCalls_append, List.getElem?_append_right (Nat.le_of_eq hlength), hlength, Nat.sub_self]
  rfl

/-- What every call keeps, the run keeps. -/
theorem runCalls_induction {step : σ → ι → α × σ} {P : σ → Prop} {s : σ} (h : P s)
    (hstep : ∀ s c, P s → P (step s c).2) (cs : List ι) : P (runCalls step s cs).2 := by
  induction cs generalizing s with
  | nil => exact h
  | cons c cs ih => exact ih (hstep s c h)

end IndexShards
