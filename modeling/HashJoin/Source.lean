import HashJoin.Batch
import HashJoin.Error.Join

/-!
# Batch sources

A source delivers batches to whoever pulls it. A pull reports what came of it; after a batch has been
reported it can be looked at, or taken out. A source can be killed, and then has nothing more to
deliver.

A source is a value, and pulling it gives the source as it is afterwards. Every source bounds how
often it can still report something other than its end or a failure, so that pulling until a batch
arrives comes to an end.

## Main definitions

* `Pulled` — the reports of a pull.
* `BatchSource` — the operations of a source.
* `BatchSource.pull` — pulls until there is a batch, an end or a failure.

## Main results

* `pullsLeft_of_pull` — a batch that was pulled leaves fewer pulls.
-/

namespace HashJoin

/-- What came of a pull. -/
inductive Pulled
  /-- There is a batch. -/
  | batch
  /-- There is a batch, and its schema is new. -/
  | newSchema
  /-- There will be no more batches. -/
  | ended
  /-- There is no batch yet. -/
  | notYet
  /-- The source failed. -/
  | failed
  deriving DecidableEq

/-- A kill that arrived at a source at the bottom. -/
structure KillSignal where
  /-- The label of the source. -/
  label : String
  /-- Whether the inputs of the source are to be killed as well. -/
  propagate : Bool
  deriving DecidableEq

/-- Values that deliver batches. -/
class BatchSource (σ : Type) where
  /-- The schema of the batches, if it is known. -/
  schema? : σ → Option Schema
  /-- Pulls the source once. -/
  next : σ → Pulled × σ
  /-- The batch that was reported last, unless it has been taken. -/
  current? : σ → Option Batch
  /-- Takes that batch out. -/
  takeBatch : σ → Option Batch × σ
  /-- Takes out the cause of the last failure. -/
  takeFailure : σ → Option JoinError × σ
  /-- Stops the source, and on request the inputs that it has itself. -/
  kill : Bool → σ → σ
  /-- What becomes of the source when nobody holds it any more. -/
  dispose : σ → σ
  /-- The kills that arrived at the source, or at those below it, in order of arrival. -/
  killLog : σ → List KillSignal
  /-- A bound on the pulls that can still report a batch or a delay. -/
  pullsLeft : σ → Nat
  /-- A bound on the rows of the batches still to come. -/
  rowsLeft : σ → Nat

namespace BatchSource

variable {σ : Type} [BatchSource σ]

/-- Number of rows of the current batch. -/
def recordCount (s : σ) : Nat := ((current? s).map Batch.rowCount).getD 0

/-- Takes out the batch that was just reported. A source that has used up its pulls has ended. -/
def takeReported (side : Side) (left : Nat) (s : σ) : Except JoinError (Option Batch) × σ :=
  match takeBatch s with
  | (some batch, s) => (.ok (if pullsLeft s < left then some batch else none), s)
  | (none, s) => (.error (.internal (.missingBatch side)), s)

/-- Pulls a source until there is a batch, the end or a failure. -/
def pull (side : Side) (s : σ) : Except JoinError (Option Batch) × σ :=
  match next s with
  | (.batch, t) => takeReported side (pullsLeft s) t
  | (.newSchema, t) => takeReported side (pullsLeft s) t
  | (.notYet, t) => if pullsLeft t < pullsLeft s then pull side t else (.ok none, t)
  | (.ended, t) => (.ok none, t)
  | (.failed, t) =>
    match takeFailure t with
    | (some cause, t) => (.error cause, t)
    | (none, t) => (.error (.sourceFailed side "upstream reported failure"), t)
  termination_by pullsLeft s

theorem pullsLeft_of_takeReported {side : Side} {left : Nat} {s t : σ} {batch : Batch}
    (h : takeReported side left s = (.ok (some batch), t)) : pullsLeft t < left := by
  unfold takeReported at h
  split at h
  · split at h
    · next lt => cases h; exact lt
    · simp at h
  · simp at h

theorem pullsLeft_of_pull {side : Side} {s t : σ} {batch : Batch}
    (h : pull side s = (.ok (some batch), t)) : pullsLeft t < pullsLeft s := by
  fun_induction pull side s with
  | case1 s t' _ => exact pullsLeft_of_takeReported h
  | case2 s t' _ => exact pullsLeft_of_takeReported h
  | case3 s t' _ lt ih => exact Nat.lt_trans (ih h) lt
  | case4 => simp at h
  | case5 => simp at h
  | case6 => simp at h
  | case7 => simp at h

end BatchSource

end HashJoin
