import HashJoin.Operator

/-!
# Calls of an operator

Whoever holds an operator can pull it, take its batch or its failure, kill it and close it, in any
order and any number of times.

## Main definitions

* `Operator.Call`, `Operator.perform`, `Operator.run` — a call, its effect, and that of a sequence.
* `Operator.Observation`, `Operator.pulls` — what can be seen of an operator that is only pulled.

## Main results

* `run_induction` — what every call preserves holds after all calls.
* `pulls_succ` — one pull and then the others.
-/

namespace HashJoin
namespace Operator

/-- What can be done to an operator. -/
inductive Call
  /-- To pull it. -/
  | next
  /-- To take its current batch. -/
  | takeBatch
  /-- To take the cause of its failure. -/
  | takeFailure
  /-- To kill it, and its inputs if that is to propagate. -/
  | kill (propagate : Bool)
  /-- To close it. -/
  | close
  deriving DecidableEq

variable {P B : Type}

theorem create?_eq_ok_iff {config : Config} {probe : P} {build : B} {op : Operator P B} :
    create? config probe build = .ok op ↔
      config.fault? = none ∧ op = ofSources config probe build := by
  unfold create?
  split
  · next fault h => simp [h]
  · next h => simp [h, eq_comm]

variable [BatchSource P] [BatchSource B]

/-- The operator after a call. -/
def perform (op : Operator P B) : Call → Operator P B
  | .next => op.next.2
  | .takeBatch => op.takeBatch.2
  | .takeFailure => op.takeFailure.2
  | .kill propagate => op.kill propagate
  | .close => op.close

/-- The operator after a sequence of calls. -/
def run (op : Operator P B) (calls : List Call) : Operator P B := calls.foldl perform op

/-- What every call preserves holds after all calls. -/
theorem run_induction {motive : Operator P B → Prop} {op : Operator P B} (calls : List Call)
    (start : motive op) (step : ∀ op call, motive op → motive (op.perform call)) :
    motive (op.run calls) := by
  induction calls generalizing op with
  | nil => exact start
  | cons call calls ih => exact ih (step op call start)

/-! ### Pulls -/

/-- What can be seen of an operator after a pull. -/
structure Observation where
  /-- The report of the pull. -/
  report : Pulled
  /-- The batch that can be taken. -/
  batch : Option Batch
  /-- The counters. -/
  metrics : Metrics

/-- What can be seen after each of a number of pulls, and the operator after all of them. -/
def pulls : Nat → Operator P B → List Observation × Operator P B
  | 0, op => ([], op)
  | n + 1, op =>
    let (report, op) := op.next
    let (observations, final) := pulls n op
    (⟨report, op.current, op.metrics⟩ :: observations, final)

theorem pulls_succ (n : Nat) (op : Operator P B) :
    pulls (n + 1) op = (⟨op.next.1, op.next.2.current, op.next.2.metrics⟩ :: (pulls n op.next.2).1,
      (pulls n op.next.2).2) := rfl

/-- One more pull at the end. -/
theorem pulls_concat (n : Nat) (op : Operator P B) :
    (pulls (n + 1) op).2 = (pulls n op).2.next.2 := by
  induction n generalizing op with
  | zero => rfl
  | succ n ih => exact ih op.next.2

end Operator
end HashJoin
