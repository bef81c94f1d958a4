import HashJoin.Proofs.Memory.Metering
import HashJoin.Proofs.Memory.Operator
import HashJoin.Source.Script

/-!
# The least sufficient limit

The peak of a join that runs to its end is the least limit under which it does. Memory is reserved
in the build phase alone, and a refusal there ends the join before its first batch.

## Main definitions

* `Operator.withLimit` — the same operator under another limit.

## Main results

* `next_withLimit` — once the build phase is over, the limit has no effect.
* `metered_start` — up to then, its effect is that of the peak.
* `peak_least_limit` — **the peak is the least sufficient limit.**
-/

namespace HashJoin
namespace Operator

variable {P B : Type}

/-- The same operator under another limit. -/
def withLimit (op : Operator P B) (limit : Nat) : Operator P B :=
  { op with
    config := { op.config with memoryLimit := limit }
    budget := op.budget.withLimit limit }

theorem peak_clear (side : BuildSide) (budget : Budget) : (side.clear budget).2.peak = budget.peak := by
  obtain ⟨table, ledger, store⟩ := side
  cases table <;> rfl

theorem release_withLimit (op : Operator P B) (limit : Nat) :
    (op.withLimit limit).release = op.release.withLimit limit := by
  obtain ⟨config, probe, build, stage, budget, ⟨table, ledger, store⟩, _⟩ := op
  unfold release
  split
  · next h => rw [if_pos (by exact h)]
  · next h =>
    rw [if_neg (by exact h)]
    cases table <;> rfl

theorem peak_release (op : Operator P B) : op.release.budget.peak = op.budget.peak := by
  unfold release
  split
  · rfl
  · exact peak_clear op.side op.budget

theorem reserved_release_le (op : Operator P B) :
    op.release.budget.reserved ≤ op.budget.reserved := by
  unfold release
  split
  · exact Nat.le_refl _
  · exact Nat.zero_le _

variable [BatchSource P] [BatchSource B]

theorem killInputs_withLimit (op : Operator P B) (limit : Nat) :
    (op.withLimit limit).killInputs = op.killInputs.withLimit limit := by
  unfold killInputs
  split
  · next h => rw [if_pos (by exact h)]
  · next h =>
    rw [if_neg (by exact h)]
    rfl

theorem tearDown_withLimit (op : Operator P B) (limit : Nat) :
    (op.withLimit limit).tearDown = op.tearDown.withLimit limit := by
  rw [tearDown, release_withLimit, killInputs_withLimit, tearDown]

theorem peak_tearDown (op : Operator P B) : op.tearDown.budget.peak = op.budget.peak := by
  rw [budget_tearDown, peak_release]

theorem finish_withLimit (op : Operator P B) (limit : Nat) :
    (op.withLimit limit).finish = op.finish.withLimit limit :=
  tearDown_withLimit { op with stage := .done } limit

theorem fail_withLimit (op : Operator P B) (cause : JoinError) (limit : Nat) :
    (op.withLimit limit).fail cause = (op.fail cause).withLimit limit :=
  tearDown_withLimit { op with failure := some cause, stage := .failed } limit

/-! ### After the build phase -/

theorem deliver_withLimit (op : Operator P B) (result : Except JoinError (Option Batch))
    (limit : Nat) : (op.withLimit limit).deliver result =
      ((op.deliver result).1, (op.deliver result).2.withLimit limit) := by
  cases result with
  | error e => exact congrArg (Prod.mk Pulled.failed) (fail_withLimit op e limit)
  | ok made =>
    cases made with
    | none => exact congrArg (Prod.mk Pulled.ended) (finish_withLimit op limit)
    | some batch => rfl

theorem pullOutput_withLimit (op : Operator P B) (p : Probe) (limit : Nat) :
    (op.withLimit limit).pullOutput p =
      ((op.pullOutput p).1, (op.pullOutput p).2.withLimit limit) := by
  rcases hout : p.nextOutput op.side.table op.side.store op.side.ledger op.probe op.metrics with
    ⟨result, q, ledger, source, metrics⟩
  have hout' : p.nextOutput (op.withLimit limit).side.table (op.withLimit limit).side.store
      (op.withLimit limit).side.ledger (op.withLimit limit).probe (op.withLimit limit).metrics =
        (result, q, ledger, source, metrics) := hout
  rw [pullOutput_eq hout, pullOutput_eq hout']
  exact deliver_withLimit (op.resume q ⟨op.side.table, ledger, op.side.store⟩ source metrics)
    result limit

/-- Once the first pull is over, the limit has no effect. -/
theorem next_withLimit {op : Operator P B} (h : op.stage ≠ .unstarted) (limit : Nat) :
    (op.withLimit limit).next = (op.next.1, op.next.2.withLimit limit) := by
  unfold next
  have hstage : (op.withLimit limit).stage = op.stage := rfl
  rw [hstage]
  cases hs : op.stage with
  | unstarted => exact absurd hs h
  | done => rfl
  | failed => rfl
  | probing p => exact pullOutput_withLimit { op with current := none } p limit

/-- After the first pull the peak stays, and the operator remains past it. -/
theorem peak_deliver (op : Operator P B) (result : Except JoinError (Option Batch)) :
    (op.deliver result).2.budget.peak = op.budget.peak := by
  cases result with
  | error e => exact peak_tearDown _
  | ok made =>
    cases made with
    | none => exact peak_tearDown _
    | some batch => rfl

theorem peak_pullOutput (op : Operator P B) (p : Probe) :
    (op.pullOutput p).2.budget.peak = op.budget.peak := by
  rcases hout : p.nextOutput op.side.table op.side.store op.side.ledger op.probe op.metrics with
    ⟨result, q, ledger, source, metrics⟩
  rw [pullOutput_eq hout, peak_deliver]
  rfl

theorem stage_pullOutput (op : Operator P B) (p : Probe) :
    (op.pullOutput p).2.stage ≠ .unstarted := by
  rcases hout : p.nextOutput op.side.table op.side.store op.side.ledger op.probe op.metrics with
    ⟨result, q, ledger, source, metrics⟩
  rw [pullOutput_eq hout]
  rcases result with e | _ | batch
  · rw [deliver, fail, stage_tearDown]
    nofun
  · rw [deliver, finish, stage_tearDown]
    nofun
  · nofun

theorem started_next {op : Operator P B} (h : op.stage ≠ .unstarted) :
    op.next.2.stage ≠ .unstarted ∧ op.next.2.budget.peak = op.budget.peak := by
  unfold next
  cases hs : op.stage with
  | unstarted => exact absurd hs h
  | done => exact ⟨h, rfl⟩
  | failed => exact ⟨h, rfl⟩
  | probing p => exact ⟨stage_pullOutput _ p, peak_pullOutput _ p⟩

theorem started_pulls {op : Operator P B} (h : op.stage ≠ .unstarted) (n : Nat) :
    (op.pulls n).2.stage ≠ .unstarted ∧ (op.pulls n).2.budget.peak = op.budget.peak := by
  induction n generalizing op with
  | zero => exact ⟨h, rfl⟩
  | succ n ih =>
    obtain ⟨hstage, hpeak⟩ := started_next h
    rw [pulls_succ, ← hpeak]
    exact ih hstage

theorem pulls_withLimit {op : Operator P B} (h : op.stage ≠ .unstarted) (limit n : Nat) :
    (op.withLimit limit).pulls n = ((op.pulls n).1, (op.pulls n).2.withLimit limit) := by
  induction n generalizing op with
  | zero => rfl
  | succ n ih =>
    rw [pulls_succ, pulls_succ, next_withLimit h, ih (started_next h).1]
    rfl

/-! ### The build phase -/

variable {op op' : Operator P B} {probeSchema : Option Schema}

omit [BatchSource P] in
theorem metered_fillBuild {first : Option Batch} {keys : JoinKeys}
    (h : op.fillBuild first probeSchema = (.ok keys, op'))
    (hb : op.budget.reserved ≤ op.budget.peak) :
    Metered op.budget op'.budget
      (fun limit => (op.withLimit limit).fillBuild first probeSchema = (.ok keys, op'.withLimit limit))
      (fun limit => OutOfMemory ((op.withLimit limit).fillBuild first probeSchema).1) := by
  simp only [fillBuild] at h
  rcases hload : Loading.fill op.config probeSchema first op.build
    ⟨none, op.side.ledger, op.side.store, op.budget, op.metrics⟩ with ⟨result, build, loading⟩
  rw [hload] at h
  cases h
  -- the limit reaches the build phase by two ways, the budget and the configuration
  have hrun : ∀ limit, Loading.fill (op.withLimit limit).config probeSchema first
      (op.withLimit limit).build ⟨none, (op.withLimit limit).side.ledger,
        (op.withLimit limit).side.store, (op.withLimit limit).budget, (op.withLimit limit).metrics⟩ =
      Loading.fill op.config probeSchema first op.build (Loading.withLimit
        ⟨none, op.side.ledger, op.side.store, op.budget, op.metrics⟩ limit) :=
    fun limit => Loading.fill_memoryLimit op.config probeSchema first op.build _ limit
  refine (Loading.metered_fill hload hb).mono ?_ ?_
  · intro limit hok
    simp only [fillBuild, hrun, hok]
    rfl
  · intro limit hno
    simp only [fillBuild, hrun]
    exact hno

theorem skipOutput_withLimit (op : Operator P B) (first : Option Batch) (limit : Nat) :
    (op.withLimit limit).skipOutput first =
      ((op.skipOutput first).1, (op.skipOutput first).2.withLimit limit) := by
  rcases hread : (if first.isSome then drainProbe op.probe else (.ok (), op.probe)) with
    ⟨_ | ⟨⟨⟩⟩, probe⟩
  · have hread' : (if first.isSome then drainProbe (op.withLimit limit).probe
      else (.ok (), (op.withLimit limit).probe)) = (.error _, probe) := hread
    simp only [skipOutput, hread, hread']
    rfl
  · have hread' : (if first.isSome then drainProbe (op.withLimit limit).probe
      else (.ok (), (op.withLimit limit).probe)) = (.ok (), probe) := hread
    simp only [skipOutput, hread, hread']
    exact congrArg (Prod.mk _) (finish_withLimit (op.setProbe probe) limit)

theorem startProbing_withLimit (op : Operator P B) (keys : JoinKeys) (first : Option Batch)
    (probeSchema : Option Schema) (limit : Nat) :
    (op.withLimit limit).startProbing keys first probeSchema =
      ((op.startProbing keys first probeSchema).1,
        (op.startProbing keys first probeSchema).2.withLimit limit) := by
  simp only [startProbing]
  by_cases hempty : (op.side.store.rowCount = 0 && op.config.joinType = .inner) = true
  · rw [if_pos (by exact hempty), if_pos (by exact hempty)]
    exact skipOutput_withLimit (op.settle _) first limit
  · rw [if_neg (by exact hempty), if_neg (by exact hempty)]
    rfl

/-- What is ready after the first pull has cost as much as the build phase. -/
theorem budget_startProbing (op : Operator P B) (keys : JoinKeys) (first : Option Batch)
    (probeSchema : Option Schema) :
    (op.startProbing keys first probeSchema).2.budget.peak = op.budget.peak ∧
      (op.startProbing keys first probeSchema).2.budget.reserved ≤ op.budget.reserved := by
  simp only [startProbing, skipOutput]
  split
  · split
    · exact ⟨rfl, Nat.le_refl _⟩
    · refine ⟨peak_tearDown _, ?_⟩
      rw [finish, budget_tearDown]
      exact reserved_release_le _
  · exact ⟨rfl, Nat.le_refl _⟩

theorem metered_start (h : op.start = (.ok (), op')) (hb : op.budget.reserved ≤ op.budget.peak) :
    Metered op.budget op'.budget
      (fun limit => (op.withLimit limit).start = (.ok (), op'.withLimit limit))
      (fun limit => OutOfMemory (op.withLimit limit).start.1) := by
  have hpull : ∀ limit, (op.withLimit limit).pullProbe =
      (op.pullProbe.1, op.pullProbe.2.withLimit limit) := fun _ => rfl
  have hpull' : ∀ (op : Operator P B) limit, (op.withLimit limit).pullBuild =
      (op.pullBuild.1, op.pullBuild.2.withLimit limit) := fun _ _ => rfl
  cases starts_of_start h with
  | @filled keys first buildFirst op₁ op₂ op₃ _ _ hprobe hbuild hfill hbegin =>
    -- pulling the first batches reserves nothing
    have hbudget : op₂.budget = op.budget := by
      obtain rfl : op.setProbe _ = op₁ := congrArg Prod.snd hprobe
      obtain rfl : Operator.setBuild _ _ = op₂ := congrArg Prod.snd hbuild
      rfl
    have hschema : ∀ limit, BatchSource.schema? (op₁.withLimit limit).probe =
        BatchSource.schema? op₁.probe := fun _ => rfl
    have hfilled := metered_fillBuild hfill (by rw [hbudget]; exact hb)
    rw [hbudget] at hfilled
    -- what follows the build phase gives memory back, but takes none
    obtain ⟨hpeak, hreserved⟩ := budget_startProbing op₃ keys first
      ((first.map Batch.schema).or (BatchSource.schema? op₁.probe))
    rw [hbegin] at hpeak hreserved
    refine (hfilled.settle hpeak hreserved).mono ?_ ?_
    · intro limit hok
      simp only [start, hpull, hprobe, hpull', hbuild, hschema, hok, startProbing_withLimit, hbegin]
    · intro limit hno
      simp only [start, hpull, hprobe, hpull', hbuild, hschema]
      obtain ⟨use, requested, available, op₄, hrun⟩ := hno.eq_mk
      rw [hrun]
      exact ⟨use, requested, available, rfl⟩

theorem stage_startProbing {keys : JoinKeys} {first : Option Batch}
    (h : op.startProbing keys first probeSchema = (.ok (), op')) : op'.stage ≠ .unstarted := by
  simp only [startProbing, skipOutput] at h
  split at h
  · split at h
    · cases h
    · cases h
      rw [finish, stage_tearDown]
      intro hstage
      cases hstage
  · cases h
    intro hstage
    cases hstage

theorem stage_start (h : op.start = (.ok (), op')) : op'.stage ≠ .unstarted := by
  cases starts_of_start h with
  | filled hprobe hbuild hfill hbegin => exact stage_startProbing hbegin

/-! ### The whole join -/

theorem pulls_failed {op : Operator P B} (h : op.stage = .failed) (n : Nat) :
    op.pulls n = (List.replicate n ⟨.failed, op.current, op.metrics⟩, op) := by
  have hnext : op.next = (.failed, op) := by
    unfold next
    rw [h]
  induction n with
  | zero => rfl
  | succ n ih => rw [pulls_succ, hnext, ih, List.replicate_succ]

theorem accounted_pulls {op : Operator P B} {limit : Nat} (h : op.Accounted limit) (n : Nat) :
    (op.pulls n).2.Accounted limit := by
  induction n generalizing op with
  | zero => exact h
  | succ n ih => exact ih (accounted_next h)

theorem showFirst_withLimit (op : Operator P B) (limit : Nat) :
    (op.withLimit limit).showFirst = (op.showFirst.1, op.showFirst.2.withLimit limit) := by
  unfold showFirst
  have hstage : (op.withLimit limit).stage = op.stage := rfl
  rw [hstage]
  cases hs : op.stage with
  | probing p => exact pullOutput_withLimit op p limit
  | unstarted => rfl
  | done => rfl
  | failed => rfl

theorem started_showFirst {op : Operator P B} (h : op.stage ≠ .unstarted) :
    op.showFirst.2.stage ≠ .unstarted ∧ op.showFirst.2.budget.peak = op.budget.peak := by
  unfold showFirst
  cases hs : op.stage with
  | unstarted => exact absurd hs h
  | done => exact ⟨h, rfl⟩
  | failed => exact ⟨h, rfl⟩
  | probing p => exact ⟨stage_pullOutput op p, peak_pullOutput op p⟩

/-- The first pull of a join that comes to its end makes everything ready. -/
theorem start_of_done {op : Operator P B} {n : Nat} (hnew : op.stage = .unstarted)
    (h : (op.pulls n).2.stage = .done) : ∃ op', op.start = (.ok (), op') := by
  rcases hstart : op.start with ⟨e | ⟨⟨⟩⟩, op'⟩
  · have hnext := next_of_failed_start hnew hstart
    have hstage : (op'.fail e).stage = .failed := stage_tearDown _
    cases n with
    | zero =>
      rw [pulls, hnew] at h
      cases h
    | succ n =>
      rw [pulls_succ, hnext, pulls_failed hstage, hstage] at h
      cases h
  · exact ⟨op', rfl⟩

/-- The counters at the end show the peak of the first pull. -/
theorem peakBytes_of_done {op op' : Operator P B} {limit n : Nat} (h : op.Accounted limit)
    (hnew : op.stage = .unstarted) (hstart : op.start = (.ok (), op'))
    (hdone : (op.pulls n).2.stage = .done) :
    (op.pulls n).2.metrics.peakBytes = op'.budget.peak := by
  have hend := accounted_pulls h n
  rw [hend.recorded (by rw [hend.released_eq, hdone]; rfl)]
  cases n with
  | zero =>
    rw [pulls, hnew] at hdone
    cases hdone
  | succ n =>
    obtain ⟨hstarted, hpeak⟩ := started_showFirst (stage_start hstart)
    rw [pulls_succ, next_of_start hnew hstart, ← hpeak]
    exact (started_pulls hstarted n).2

/-- A join whose first pull fails shows failures from then on, and never a batch. -/
theorem pulls_of_failed_start {op op' : Operator P B} {cause : JoinError} {limit : Nat}
    (hnew : op.stage = .unstarted) (hstart : op.start = (.error cause, op'))
    (h : op'.Holding limit) (m : Nat) :
    ∀ shown ∈ (op.pulls m).1, shown.report = .failed ∧ shown.batch = none := by
  have hstage : (op'.fail cause).stage = .failed := stage_tearDown _
  have hcurrent : (op'.fail cause).current = none := by
    rw [fail, current_tearDown]
    exact current_release h.held
  intro shown hmem
  cases m with
  | zero => cases hmem
  | succ m =>
    rw [pulls_succ, next_of_failed_start hnew hstart, pulls_failed hstage] at hmem
    rcases List.mem_cons.mp hmem with rfl | hmem
    · exact ⟨rfl, hcurrent⟩
    · obtain ⟨-, rfl⟩ := List.mem_replicate.mp hmem
      exact ⟨rfl, hcurrent⟩

/-- **The peak is the least sufficient limit.** Take a join that is pulled until it has come to its
end. Under every limit that is no less than the peak that its counters show at that point, the same
join shows the same reports, batches and counters pull by pull. Under every smaller limit its first
pull fails for want of memory, and no pull ever shows a batch. -/
theorem peak_least_limit {config : Config} {probe : P} {build : B} {op : Operator P B}
    (hnew : create? config probe build = .ok op) {n : Nat} (hdone : (op.pulls n).2.stage = .done)
    (limit : Nat) :
    ∃ other, create? { config with memoryLimit := limit } probe build = .ok other ∧
      ((op.pulls n).2.metrics.peakBytes ≤ limit → ∀ m, (other.pulls m).1 = (op.pulls m).1) ∧
      (limit < (op.pulls n).2.metrics.peakBytes →
        other.next.1 = .failed ∧
          (∃ use requested available,
            other.next.2.failure = some (.outOfMemory use requested available)) ∧
          ∀ m, ∀ shown ∈ (other.pulls m).1, shown.report = .failed ∧ shown.batch = none) := by
  have haccounted := accounted_create hnew
  obtain ⟨hvalid, rfl⟩ := create?_eq_ok_iff.mp hnew
  refine ⟨ofSources { config with memoryLimit := limit } probe build,
    create?_eq_ok_iff.mpr ⟨hvalid, rfl⟩, ?_⟩
  have hother : ofSources { config with memoryLimit := limit } probe build =
      (ofSources config probe build).withLimit limit := rfl
  rw [hother]
  obtain ⟨op', hstart⟩ := start_of_done rfl hdone
  have hmetered := metered_start hstart (Nat.le_refl 0)
  rw [peakBytes_of_done haccounted rfl hstart hdone]
  refine ⟨?_, ?_⟩
  · intro hle m
    -- under a larger limit the build phase is the same, and what comes after does not see it
    cases m with
    | zero => rfl
    | succ m =>
      have hnext := next_of_start rfl (hmetered.granted limit hle)
      rw [showFirst_withLimit] at hnext
      have hstarted := (started_showFirst (stage_start hstart)).1
      rw [pulls_succ, pulls_succ, hnext, next_of_start rfl hstart, pulls_withLimit hstarted]
      rfl
  · intro hlt
    -- under a smaller one the build phase is refused a reservation, and the join has failed
    obtain ⟨use, requested, available, op₁, hrun⟩ :=
      (hmetered.refused limit (Nat.zero_le _) hlt).eq_mk
    have hholding : op₁.Holding limit := accounted_start hrun ⟨.ofLimit limit, rfl⟩ rfl
    rw [next_of_failed_start rfl hrun]
    exact ⟨rfl, ⟨use, requested, available, failure_tearDown _⟩,
      pulls_of_failed_start rfl hrun hholding⟩

/-- A join of one row with itself takes 16537 bytes at its peak, and fails with one byte less. -/
theorem peak_least_limit_one_pair :
    let batch : Batch :=
      ⟨1, 1, [.fixed (.scalar "k" (.int .bits64) true) (.ofList [true]) ⟨.ints .bits64 #[2], 32⟩],
        none⟩
    let config : Config :=
      { Config.ofConditions .full [⟨"k", "k", .equals⟩] with minBuckets := 1 }
    let probe : Script := .ofSteps "probe" [.batch batch] none
    let build : Script := .ofSteps "build" [.batch batch] none
    ∃ op other, create? config probe build = .ok op ∧ (op.pulls 2).2.stage = .done ∧
      (op.pulls 2).2.metrics.peakBytes = 16537 ∧
      create? { config with memoryLimit := 16536 } probe build = .ok other ∧
      other.next.1 = .failed := by
  intro batch config probe build
  have hvalid : config.fault? = none := Option.isNone_iff_eq_none.mp (by decide +kernel)
  have hnew : create? config probe build = .ok (ofSources config probe build) :=
    create?_eq_ok_iff.mpr ⟨hvalid, rfl⟩
  have hended : (match ((ofSources config probe build).pulls 2).2.stage with
      | .done => true
      | _ => false) = true := by decide +kernel
  have hdone : ((ofSources config probe build).pulls 2).2.stage = .done := by
    split at hended
    · assumption
    · cases hended
  have hpeak : ((ofSources config probe build).pulls 2).2.metrics.peakBytes = 16537 := by
    decide +kernel
  obtain ⟨other, hother, -, hless⟩ := peak_least_limit hnew hdone 16536
  rw [hpeak] at hless
  exact ⟨_, other, hnew, hdone, hpeak, hother, (hless (by decide)).1⟩

end Operator
end HashJoin
