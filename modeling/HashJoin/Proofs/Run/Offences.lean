import HashJoin.Proofs.BuildSide.Offences
import HashJoin.Proofs.Operator.Frames

/-!
# The first pull and the build script

The first pull of an operator takes one probe batch in advance and then reads the build source. What
the build source is refused for can be read off its script, before the operator is pulled at all.

## Main definitions

* `Operator.takeBuild` — the part of the first pull that reads the build source.

## Main results

* `start_eq` — the first pull in parts.
* `build_fails_at_first_offence` — **the build side fails at the first offence of its script.**
-/

namespace HashJoin

open BatchSource

namespace Operator

variable {P B : Type} [BatchSource P] [BatchSource B]

omit [BatchSource P] in
/-- Reads the build source: pulls one batch in advance, and fills the build side. -/
def takeBuild (op : Operator P B) (probeSchema : Option Schema) :
    Except JoinError JoinKeys × Operator P B :=
  match op.pullBuild with
  | (.error e, op) => (.error e, op)
  | (.ok first, op) => op.fillBuild first probeSchema

/-- The first pull takes a probe batch in advance, reads the build source, and begins with the output. -/
theorem start_eq (op : Operator P B) :
    op.start = match op.pullProbe with
      | (.error e, op) => (.error e, op)
      | (.ok first, op) =>
        let probeSchema := (first.map Batch.schema).or (schema? op.probe)
        match op.takeBuild probeSchema with
        | (.error e, op) => (.error e, op)
        | (.ok keys, op) => op.startProbing keys first probeSchema := by
  simp only [start, takeBuild]
  cases op.pullProbe with
  | mk probed op₁ =>
    cases probed with
    | error e => rfl
    | ok first =>
      simp only
      cases op₁.pullBuild with
      | mk built op₂ => cases built <;> rfl

omit [BatchSource P] in
theorem takeBuild_fst (op : Operator P B) (probeSchema : Option Schema) :
    (op.takeBuild probeSchema).1 = Loading.load op.config probeSchema op.build
      ⟨none, op.side.ledger, op.side.store, op.budget, op.metrics⟩ := by
  simp only [takeBuild, pullBuild, Loading.load]
  cases pull .build op.build with
  | mk pulled rest => cases pulled <;> rfl

/-- **The build side fails at the first offence of its script**, whatever is known of the probe source,
and with the error of that offence. Delays and batches without rows are no offences. The rows of a batch
are refused for want of memory or of slots only. The first pull of the operator fails with the error
of the first offence, once it has its probe batch. -/
theorem build_fails_at_first_offence (config : Config) (probe : P) (label : String)
    (steps : List ScriptStep) (declared : Option Schema) :
    let op := ofSources config probe (Script.ofSteps label steps declared)
    let bare := (streamSchema (Script.batches steps)).or declared
    (∀ probeSchema e, (op.pullProbe.2.takeBuild probeSchema).1 = .error e ↔
      firstOffence? config probeSchema bare none steps = some e) ∧
    (∀ probeSchema, firstOffence? config probeSchema bare none (steps.filter fun step => !step.isIdle) =
      firstOffence? config probeSchema bare none steps) ∧
    (∀ (tally : Tally) b e, tally.addBatch config.loadFactor b = .error e →
      Loading.RowRefused (tally.rows + b.rowCount) e) ∧
    ∀ first op₁, op.pullProbe = (.ok first, op₁) → ∀ e,
      firstOffence? config ((first.map Batch.schema).or (schema? op₁.probe)) bare none steps = some e →
        op.next.1 = .failed ∧ op.next.2.failure = some e := by
  intro op bare
  have hfails : ∀ probeSchema e, (op.pullProbe.2.takeBuild probeSchema).1 = .error e ↔
      firstOffence? config probeSchema bare none steps = some e := by
    intro probeSchema e
    let bareSide : Loading := ⟨none, .empty, .empty, .ofLimit config.memoryLimit, .zero⟩
    have htook : bareSide.Took config probeSchema [] := Loading.took_nil _ _
    have hcounts : bareSide.Counts config none := ⟨rfl, rfl, rfl⟩
    refine Iff.trans ?_ (Loading.fill_eq_error_iff label declared none none 0 htook hcounts fun _ => rfl)
    rw [← Loading.load_eq_fill, takeBuild_fst]
    rfl
  refine ⟨hfails, fun probeSchema => firstOffence?_filter .., fun tally b e => Tally.refused_of_addBatch,
    ?_⟩
  intro first op₁ hprobe e hoffence
  have hbuild := (hfails _ e).mpr hoffence
  rw [hprobe] at hbuild
  cases htake : op₁.takeBuild ((first.map Batch.schema).or (schema? op₁.probe)) with
  | mk result op₂ =>
    rw [htake] at hbuild
    obtain rfl : result = .error e := hbuild
    have hstart : op.start = (.error e, op₂) := by
      rw [start_eq, hprobe]
      simp only [htake]
    rw [next_of_failed_start rfl hstart]
    exact ⟨rfl, failure_tearDown _⟩

/-- A left join over a build script with two selections: a batch without rows may have one, and a batch
with rows may not. The first pull fails there, before it comes to the failure of the source. -/
theorem build_fails_at_first_offence_selection :
    let one : Batch := ⟨1, 1, [.fixed (.scalar "k" (.int .bits64) true) (.ofList [true])
      ⟨.ints .bits64 #[7], 32⟩], none⟩
    let idle : Batch := ⟨0, 0, [], some ⟨[]⟩⟩
    let chosen : Batch := { one with selection := some ⟨[0]⟩ }
    let config : Config := { Config.ofConditions .left [⟨"k", "k", .equals⟩] with minBuckets := 1 }
    let probe : Script := .ofSteps "probe" [.batch one] none
    let steps : List ScriptStep := [.batch idle, .notYet, .batch chosen, .fail .cancelled]
    let op := ofSources config probe (Script.ofSteps "build" steps none)
    op.next.1 = .failed ∧ op.next.2.failure = some (.unsupported .build .selection) := by
  intro one idle chosen config probe steps op
  obtain ⟨schema, hpulled⟩ := Script.pull_batch "probe" none none none 0 [] .probe one
  have hprobe : op.pullProbe = (.ok (some one), op.setProbe ⟨"probe", [], schema, none, none, 1, []⟩) := by
    show (match pull .probe probe with | (pulled, source) => (pulled, op.setProbe source)) = _
    rw [show pull .probe probe = _ from hpulled]
  obtain ⟨-, -, -, hpull⟩ := build_fails_at_first_offence config probe "build" steps none
  exact hpull (some one) _ hprobe _ rfl

end Operator
end HashJoin
