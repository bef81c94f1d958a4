import HashJoin.Proofs.Operator.Calls

/-!
# What calls leave alone

An operator that ends gives its memory back and kills its inputs. Neither changes its stage, and
killing the inputs is free of charge. The first pull makes everything ready and then shows what a
later one would show.

## Main definitions

* `Operator.Starts` — where making everything ready can stop.
* `Operator.showFirst` — the first pull once everything is ready.

## Main results

* `killInputs_eq` — the fields that killing the inputs may change.
* `stage_tearDown`, `released_tearDown` — an operator that is torn down has given back its memory.
* `pullOutput_eq`, `next_of_probing` — what an attempt at an output batch leads to.
* `starts_of_start` — making everything ready stops at one of these places.
* `next_of_start`, `next_of_failed_start` — what the first pull leads to.
-/

namespace HashJoin
namespace Operator

variable {P B : Type}

@[simp] theorem stage_release (op : Operator P B) : op.release.stage = op.stage := by
  unfold release
  split <;> rfl

@[simp] theorem failure_release (op : Operator P B) : op.release.failure = op.failure := by
  unfold release
  split <;> rfl

@[simp] theorem outputSchema_release (op : Operator P B) :
    op.release.outputSchema = op.outputSchema := by
  unfold release
  split <;> rfl

theorem current_release {op : Operator P B} (h : op.released = false) :
    op.release.current = none := by
  unfold release
  rw [h]
  rfl

@[simp] theorem released_release (op : Operator P B) : op.release.released = true := by
  unfold release
  split
  · next h => exact h
  · rfl

variable [BatchSource P] [BatchSource B]

/-- Killing the inputs changes the inputs, the log, and the note that it has been done. -/
theorem killInputs_eq (op : Operator P B) : ∃ probe build log,
    op.killInputs = { op with
      probe := probe, build := build, killLog := log, inputsSettled := true } := by
  unfold killInputs
  split
  · next h => exact ⟨op.probe, op.build, op.killLog, by rw [← h]⟩
  · exact ⟨_, _, _, rfl⟩

@[simp] theorem stage_tearDown (op : Operator P B) : op.tearDown.stage = op.stage := by
  obtain ⟨_, _, _, h⟩ := killInputs_eq op.release
  rw [tearDown, h]
  exact stage_release op

@[simp] theorem budget_tearDown (op : Operator P B) : op.tearDown.budget = op.release.budget := by
  obtain ⟨_, _, _, h⟩ := killInputs_eq op.release
  rw [tearDown, h]

@[simp] theorem side_tearDown (op : Operator P B) : op.tearDown.side = op.release.side := by
  obtain ⟨_, _, _, h⟩ := killInputs_eq op.release
  rw [tearDown, h]

@[simp] theorem metrics_tearDown (op : Operator P B) : op.tearDown.metrics = op.release.metrics := by
  obtain ⟨_, _, _, h⟩ := killInputs_eq op.release
  rw [tearDown, h]

@[simp] theorem current_tearDown (op : Operator P B) : op.tearDown.current = op.release.current := by
  obtain ⟨_, _, _, h⟩ := killInputs_eq op.release
  rw [tearDown, h]

@[simp] theorem failure_tearDown (op : Operator P B) : op.tearDown.failure = op.failure := by
  obtain ⟨_, _, _, h⟩ := killInputs_eq op.release
  rw [tearDown, h]
  exact failure_release op

@[simp] theorem outputSchema_tearDown (op : Operator P B) :
    op.tearDown.outputSchema = op.outputSchema := by
  obtain ⟨_, _, _, h⟩ := killInputs_eq op.release
  rw [tearDown, h]
  exact outputSchema_release op

@[simp] theorem released_tearDown (op : Operator P B) : op.tearDown.released = true := by
  obtain ⟨_, _, _, h⟩ := killInputs_eq op.release
  rw [tearDown, h]
  exact released_release op

/-! ### Kills -/

theorem stage_kill (op : Operator P B) (propagate : Bool) :
    (op.kill propagate).stage = if op.stage.isTerminal then op.stage else .failed := by
  cases propagate <;> cases h : op.stage.isTerminal <;> simp [kill, h]

theorem failure_kill (op : Operator P B) (propagate : Bool) :
    (op.kill propagate).failure = if op.stage.isTerminal then op.failure else some .cancelled := by
  cases propagate <;> cases h : op.stage.isTerminal <;> simp [kill, h]

@[simp] theorem outputSchema_kill (op : Operator P B) (propagate : Bool) :
    (op.kill propagate).outputSchema = op.outputSchema := by
  cases propagate <;> cases h : op.stage.isTerminal <;> simp [kill, h]

theorem stage_close (op : Operator P B) :
    op.close.stage = if op.stage.isTerminal then op.stage else .done := by
  cases h : op.stage.isTerminal <;> simp [close, h]

@[simp] theorem failure_close (op : Operator P B) : op.close.failure = op.failure := by
  cases h : op.stage.isTerminal <;> simp [close, h]

@[simp] theorem outputSchema_close (op : Operator P B) : op.close.outputSchema = op.outputSchema := by
  cases h : op.stage.isTerminal <;> simp [close, h]

/-- An operator has ended after a kill. -/
theorem isTerminal_kill (op : Operator P B) (propagate : Bool) :
    (op.kill propagate).stage.isTerminal = true := by
  rw [stage_kill]
  split
  · next h => exact h
  · rfl

/-- An operator has ended after it was closed. -/
theorem isTerminal_close (op : Operator P B) : op.close.stage.isTerminal = true := by
  rw [stage_close]
  split
  · next h => exact h
  · rfl

theorem stage_finish (op : Operator P B) : op.finish.stage = .done := stage_tearDown _

theorem stage_fail (op : Operator P B) (cause : JoinError) : (op.fail cause).stage = .failed :=
  stage_tearDown _

/-! ### Output batches -/

theorem pullOutput_eq {op : Operator P B} {p q : Probe} {result : Except JoinError (Option Batch)}
    {ledger : MatchLedger} {source : P} {metrics : Metrics}
    (h : p.nextOutput op.side.table op.side.store op.side.ledger op.probe op.metrics =
      (result, q, ledger, source, metrics)) :
    op.pullOutput p =
      (op.resume q ⟨op.side.table, ledger, op.side.store⟩ source metrics).deliver result := by
  simp only [pullOutput, h]
  rfl

theorem next_of_probing {op : Operator P B} {p : Probe} (h : op.stage = .probing p) :
    op.next = { op with current := none }.pullOutput p := by
  unfold next
  split
  · next hdone => cases h.symm.trans hdone
  · next hfailed => cases h.symm.trans hfailed
  · next hprobing =>
    cases h.symm.trans hprobing
    rfl
  · next hnew => cases h.symm.trans hnew

/-! ### The first pull -/

/-- Where making everything ready can stop. -/
inductive Starts (op : Operator P B) : Except JoinError Unit → Operator P B → Prop
  /-- The probe source fails. -/
  | unprobed {e : JoinError} {op' : Operator P B} (hprobe : op.pullProbe = (.error e, op')) :
      Starts op (.error e) op'
  /-- The build source fails. -/
  | unfed {e : JoinError} {first : Option Batch} {op₁ op' : Operator P B}
      (hprobe : op.pullProbe = (.ok first, op₁)) (hbuild : op₁.pullBuild = (.error e, op')) :
      Starts op (.error e) op'
  /-- The build side cannot be filled. -/
  | unfilled {e : JoinError} {first buildFirst : Option Batch} {op₁ op₂ op' : Operator P B}
      (hprobe : op.pullProbe = (.ok first, op₁)) (hbuild : op₁.pullBuild = (.ok buildFirst, op₂))
      (hfill : op₂.fillBuild buildFirst
        ((first.map Batch.schema).or (BatchSource.schema? op₁.probe)) = (.error e, op')) :
      Starts op (.error e) op'
  /-- The build side is filled, and the output begins. -/
  | filled {keys : JoinKeys} {first buildFirst : Option Batch} {op₁ op₂ op₃ op' : Operator P B}
      {result : Except JoinError Unit} (hprobe : op.pullProbe = (.ok first, op₁))
      (hbuild : op₁.pullBuild = (.ok buildFirst, op₂))
      (hfill : op₂.fillBuild buildFirst
        ((first.map Batch.schema).or (BatchSource.schema? op₁.probe)) = (.ok keys, op₃))
      (hbegin : op₃.startProbing keys first
        ((first.map Batch.schema).or (BatchSource.schema? op₁.probe)) = (result, op')) :
      Starts op result op'

theorem starts_of_start {op op' : Operator P B} {result : Except JoinError Unit}
    (h : op.start = (result, op')) : op.Starts result op' := by
  simp only [start] at h
  split at h
  · next hprobe =>
    cases h
    exact .unprobed hprobe
  · next hprobe =>
    split at h
    · next hbuild =>
      cases h
      exact .unfed hprobe hbuild
    · next hbuild =>
      split at h
      · next hfill =>
        cases h
        exact .unfilled hprobe hbuild hfill
      · next hfill => exact .filled hprobe hbuild hfill h

omit [BatchSource P] in
theorem outputSchema_fillBuild {op op' : Operator P B} {first : Option Batch}
    {probeSchema : Option Schema} {keys : Except JoinError JoinKeys}
    (h : op.fillBuild first probeSchema = (keys, op')) :
    op'.current = op.current ∧ op'.outputSchema = op.outputSchema := by
  simp only [fillBuild] at h
  cases h
  exact ⟨rfl, rfl⟩

/-- A first pull that fails leaves the current batch as it is. -/
theorem current_of_failed_start {op op' : Operator P B} {e : JoinError}
    (h : op.start = (.error e, op')) : op'.current = op.current := by
  have hpulled : ∀ {op op' : Operator P B} {result : Except JoinError (Option Batch)},
      op.pullProbe = (result, op') → op'.current = op.current := by
    intro op op' result h
    cases h
    rfl
  have hfed : ∀ {op op' : Operator P B} {result : Except JoinError (Option Batch)},
      op.pullBuild = (result, op') → op'.current = op.current := by
    intro op op' result h
    cases h
    rfl
  cases starts_of_start h with
  | unprobed hprobe => exact hpulled hprobe
  | unfed hprobe hbuild => exact (hfed hbuild).trans (hpulled hprobe)
  | unfilled hprobe hbuild hfill =>
    exact (outputSchema_fillBuild hfill).1.trans ((hfed hbuild).trans (hpulled hprobe))
  | @filled _ _ _ _ _ op₃ _ _ hprobe hbuild hfill hbegin =>
    have hbegun : op'.current = op₃.current := by
      simp only [startProbing, skipOutput] at hbegin
      split at hbegin
      · split at hbegin
        · cases hbegin
          rfl
        · cases hbegin
      · cases hbegin
    exact hbegun.trans ((outputSchema_fillBuild hfill).1.trans ((hfed hbuild).trans (hpulled hprobe)))

/-- A first pull that makes everything ready shows the first output. -/
def showFirst (op : Operator P B) : Pulled × Operator P B :=
  match op.stage with
  | .probing p => op.pullOutput p
  | _ => (.ended, op)

theorem next_of_start {op op' : Operator P B} (hnew : op.stage = .unstarted)
    (h : op.start = (.ok (), op')) : op.next = op'.showFirst := by
  unfold next
  rw [hnew]
  simp only [h]
  rfl

theorem next_of_failed_start {op op' : Operator P B} {cause : JoinError}
    (hnew : op.stage = .unstarted) (h : op.start = (.error cause, op')) :
    op.next = (.failed, op'.fail cause) := by
  unfold next
  rw [hnew]
  simp only [h]

/-- A first pull that makes everything ready shows what the next pull would show. -/
theorem showFirst_eq_next {op : Operator P B} (hcurrent : op.current = none)
    (hstage : op.stage = .done ∨ ∃ p, op.stage = .probing p) : op.showFirst = op.next := by
  obtain ⟨config, probe, build, stage, budget, side, outputSchema, current, _⟩ := op
  obtain rfl : current = none := hcurrent
  rcases hstage with hstage | ⟨p, hstage⟩
  · obtain rfl : stage = .done := hstage
    rfl
  · obtain rfl : stage = .probing p := hstage
    rfl

end Operator
end HashJoin
