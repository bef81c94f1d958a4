import HashJoin.Source

/-!
# Scripted sources

A script replays a fixed sequence of batches, delays and failures, and counts how it was treated.
Other sources here break the protocol: one fails without a cause, one reports batches that it does
not have.

## Main definitions

* `Script` and its instance of `BatchSource`.
* `Faulty` and its instance of `BatchSource`.
-/

namespace HashJoin

/-- One report of a script. -/
inductive ScriptStep
  /-- A batch. -/
  | batch (b : Batch)
  /-- No batch yet. -/
  | notYet
  /-- A failure. -/
  | fail (cause : JoinError)

/-- A source that replays a sequence of steps. -/
structure Script where
  /-- The name of the source in the kill log. -/
  label : String
  /-- The steps still to come. -/
  steps : List ScriptStep
  /-- The schema announced last. -/
  schema : Option Schema
  /-- The batch reported last. -/
  current : Option Batch
  /-- The cause of the last failure. -/
  failure : Option JoinError
  /-- Number of pulls so far. -/
  pulls : Nat
  /-- The kills so far. -/
  kills : List KillSignal

namespace Script

/-- A script before its first pull; it may announce a schema in advance. -/
def ofSteps (label : String) (steps : List ScriptStep) (schema : Option Schema) : Script :=
  ⟨label, steps, schema, none, none, 0, []⟩

/-- Whether the script was killed. -/
def isKilled (s : Script) : Bool := !s.kills.isEmpty

/-- Whether all steps have been replayed. -/
def isExhausted (s : Script) : Bool := s.steps.isEmpty

/-- Reports a batch; its schema is new unless it is the one announced last. -/
def report (s : Script) (batch : Batch) (rest : List ScriptStep) : Pulled × Script :=
  let s := { s with steps := rest, pulls := s.pulls + 1, current := some batch }
  if s.schema.any batch.conforms then (.batch, s)
  else (.newSchema, { s with schema := some batch.schema })

/-- Replays one step. A killed script has ended. -/
def next (s : Script) : Pulled × Script :=
  let pulled := { s with pulls := s.pulls + 1, current := none }
  if s.isKilled then (.ended, pulled)
  else match s.steps with
    | [] => (.ended, pulled)
    | .batch batch :: rest => s.report batch rest
    | .notYet :: rest => (.notYet, { pulled with steps := rest })
    | .fail cause :: rest => (.failed, { pulled with steps := rest, failure := some cause })

/-- Number of rows of the batches among some steps. -/
def stepRows : List ScriptStep → Nat
  | [] => 0
  | .batch batch :: rest => batch.rowCount + stepRows rest
  | .notYet :: rest => stepRows rest
  | .fail _ :: rest => stepRows rest

instance : BatchSource Script where
  schema? := Script.schema
  next := next
  current? := Script.current
  takeBatch s := (s.current, { s with current := none })
  takeFailure s := (s.failure, { s with failure := none })
  kill propagate s := { s with kills := s.kills ++ [⟨s.label, propagate⟩], current := none }
  dispose s := s
  killLog := Script.kills
  pullsLeft s := s.steps.length
  rowsLeft s := stepRows s.steps

end Script

/-- A source that breaks the protocol. -/
inductive Faulty
  /-- It fails at every pull and gives no cause. -/
  | failing
  /-- It reports a batch at every pull and has none. -/
  | emptyHanded

instance : BatchSource Faulty where
  schema? _ := none
  next
    | .failing => (.failed, .failing)
    | .emptyHanded => (.batch, .emptyHanded)
  current? _ := none
  takeBatch s := (none, s)
  takeFailure s := (none, s)
  kill _ s := s
  dispose s := s
  killLog _ := []
  pullsLeft _ := 0
  rowsLeft _ := 0

end HashJoin
