import HashJoin.Proofs.Run.Standing
import HashJoin.Proofs.Watch.Faithful
import HashJoin.Proofs.Watch.Inputs

/-!
# The ends of the inputs

Once an input has ended, has failed or was killed, there is no point in pulling it again. The probe
source is never pulled again after that. The build source is, in one case: if it ends at once, the pull
in advance gives nothing, and the build phase pulls it once more.

## Main definitions

* `Operator.Tended` — what holds of the histories of the inputs after any calls.

## Main results

* `endsAtOnce_iff` — a script ends at once if there is no batch and no failure in it.
* `tended_perform` — what a call preserves.
* `pulls_settled_of_run` — **when an input is pulled behind its end.**
* `pulls_behind_end` — a build source that is pulled behind its end.
-/

namespace HashJoin

open BatchSource

/-- A script ends at once if it has nothing but delays. -/
theorem Script.endsAtOnce_iff (s : Script) (h : s.kills = []) :
    EndsAtOnce s ↔ ∀ step ∈ s.steps, step = .notYet := by
  obtain ⟨label, steps, schema, current, failure, pulls, kills⟩ := s
  obtain rfl : kills = [] := h
  induction steps generalizing current pulls with
  | nil => exact ⟨fun _ => nofun, fun _ => .ended rfl⟩
  | cons step rest ih =>
    cases step with
    | notYet =>
      rw [endsAtOnce_of_notYet rfl, List.forall_mem_cons]
      exact ⟨fun hrest => ⟨rfl, (ih _ _).mp hrest.2⟩,
        fun hall => ⟨Nat.lt_succ_self _, (ih _ _).mpr hall.2⟩⟩
    | fail cause =>
      have hnext : (BatchSource.next (⟨label, .fail cause :: rest, schema, current, failure, pulls, []⟩ :
          Script)).1 = .failed := rfl
      rw [endsAtOnce_of_ne (by rw [hnext]; nofun), hnext, List.forall_mem_cons]
      exact ⟨nofun, fun hall => nomatch hall.1⟩
    | batch b =>
      have hnext : (BatchSource.next (⟨label, .batch b :: rest, schema, current, failure, pulls, []⟩ :
          Script)).1 = if schema.any b.conforms then .batch else .newSchema :=
        apply_ite Prod.fst _ _ _
      rw [endsAtOnce_of_ne (by rw [hnext]; split <;> nofun), hnext, List.forall_mem_cons]
      refine ⟨?_, fun hall => nomatch hall.1⟩
      split <;> nofun

namespace Operator

variable {P B : Type} [BatchSource P] [BatchSource B] {w w' : Operator (Watched P) (Watched B)}
  {source : B}

/-- What holds of the inputs after any calls, of a build source that was `source` before the first. -/
structure Tended (source : B) (w : Operator (Watched P) (Watched B)) : Prop where
  /-- The probe source is not pulled behind an end. -/
  probe : Settled w.probe.history
  /-- Unless it is done with, it has not ended. -/
  ongoing : w.stage.isClosed = false → Ongoing w.probe.history
  /-- The build source is pulled behind its end only if it ends at once. -/
  build : Overdraws source w.build.history
  /-- Before the first pull nothing has been done to it. -/
  fresh : w.stage = .unstarted → w.build.source = source ∧ w.build.history = []

/-- An operator that has ended leaves the inputs as they are, or has killed them. -/
theorem tended_of_terminal {i : Inputs P B} (hend : w.stage.isTerminal = true)
    (hinputs : w.inputs = i ∨ w.inputs = i.kill) (hprobe : Settled i.probe.history)
    (hbuild : Overdraws source i.build.history) : w.Tended source := by
  have hhistories : Settled w.inputs.probe.history ∧ Overdraws source w.inputs.build.history := by
    rcases hinputs with hsame | hkilled
    · rw [hsame]
      exact ⟨hprobe, hbuild⟩
    · rw [hkilled]
      unfold Inputs.kill
      split
      · exact ⟨hprobe, hbuild⟩
      · exact ⟨(settled_append_killed true).mpr hprobe, hbuild.killed true⟩
  refine ⟨hhistories.1, fun hopen => ?_, hhistories.2, fun hnew => ?_⟩
  · cases (Stage.isClosed_of_isTerminal hend).symm.trans hopen
  · rw [hnew] at hend
    cases hend

theorem tended_of_advances {built : List Treatment} (hadvances : w.Advances w' built)
    (hover : Overdraws source (w.build.history ++ built)) (h : w.Tended source) : w'.Tended source := by
  obtain ⟨⟨drawn, probed, hdrew, hinputs, hsupplied⟩, hstage⟩ := hadvances
  have hprobe : Settled (w.probe.history ++ probed) := by
    cases hclosed : w.stage.isClosed with
    | true =>
      rw [(hsupplied.closed hclosed).1, List.append_nil]
      exact h.probe
    | false => exact (settled_append_of_ongoing (h.ongoing hclosed)).mpr hsupplied.settled
  have hongoing : w'.stage.isClosed = false → Ongoing (w.probe.history ++ probed) := by
    intro hopen
    cases hclosed : w.stage.isClosed with
    | true => cases (hsupplied.closed hclosed).2.symm.trans hopen
    | false => exact (h.ongoing hclosed).append (hsupplied.ongoing trivial hopen)
  have hprobed : drawn.probe.history = w.probe.history ++ probed := hdrew.probe.history
  have hbuilt : drawn.build.history = w.build.history ++ built := hdrew.build.history
  rw [← hprobed] at hprobe hongoing
  rw [← hbuilt] at hover
  cases hend : w'.stage.isTerminal with
  | true => exact tended_of_terminal hend (.inr (hinputs.trans (if_pos hend))) hprobe hover
  | false =>
    rw [if_neg (by rw [hend]; nofun)] at hinputs
    rw [← hinputs] at hprobe hongoing hover
    exact ⟨hprobe, hongoing, hover, fun hnew => absurd hnew hstage⟩

theorem tended_next (h : w.Tended source) : w.next.2.Tended source := by
  cases hstage : w.stage with
  | unstarted =>
    obtain ⟨built, hadvances, hover⟩ := advances_of_unstarted hstage
    obtain ⟨hsource, hnone⟩ := h.fresh hstage
    rw [hsource] at hover
    refine tended_of_advances hadvances ?_ h
    rw [hnone]
    exact hover
  | probing p =>
    refine tended_of_advances (advances_of_probing hstage) ?_ h
    rw [List.append_nil]
    exact h.build
  | done | failed =>
    rw [next_of_terminal (by rw [hstage]; rfl)]
    exact h

theorem tended_perform (w : Operator (Watched P) (Watched B)) (call : Call) (h : w.Tended source) :
    (w.perform call).Tended source := by
  cases call with
  | next => exact tended_next h
  | takeBatch => exact ⟨h.probe, h.ongoing, h.build, h.fresh⟩
  | takeFailure => exact ⟨h.probe, h.ongoing, h.build, h.fresh⟩
  | kill propagate =>
    have hinputs := inputs_kill w propagate
    cases propagate with
    | true => exact tended_of_terminal (isTerminal_kill w true) (.inr hinputs) h.probe h.build
    | false => exact tended_of_terminal (isTerminal_kill w false) (.inl hinputs) h.probe h.build
  | close => exact tended_of_terminal (isTerminal_close w) (.inr (inputs_close w)) h.probe h.build

/-! ### Runs -/

variable {config : Config} {probe : P} {build : B} {op : Operator P B}

/-- **When an input is pulled behind its end.** Over watched inputs an operator goes through the same
run. No pull of the probe source comes behind an end, a failure or a kill. Nor does a pull of the build
source, unless it ends at once and has been pulled at all: then it has been pulled behind that end, and
behind nothing else. -/
theorem pulls_settled_of_run (hnew : create? config probe build = .ok op) (calls : List Call) :
    (op.run calls).Mirrors (op.watch.run calls) ∧
      Settled (op.watch.run calls).probe.history ∧
      (Settled (op.watch.run calls).build.history ↔ ¬(EndsAtOnce build ∧
        ∃ event ∈ (op.watch.run calls).build.history, event.isPull = true)) ∧
      Settled ((op.watch.run calls).build.history.erase (.pulled .ended)) := by
  obtain ⟨-, rfl⟩ := create?_eq_ok_iff.mp hnew
  have hbegin : (ofSources config probe build).watch.Tended build :=
    ⟨settled_nil, fun _ => ongoing_nil, .nil build, fun _ => ⟨rfl, rfl⟩⟩
  have htended := run_induction calls hbegin tended_perform
  exact ⟨mirrors_run (mirrors_watch _) calls, htended.probe, htended.build.settled, htended.build.erase⟩

/-- A right join over a build source that is late with its only batch: neither input is pulled behind its
end. It is pulled for its two output batches and to its end, and then killed and pulled once more. -/
theorem pulls_settled_of_run_late :
    let one : Batch := ⟨1, 1, [.fixed (.scalar "k" (.int .bits64) true) (.ofList [true])
      ⟨.ints .bits64 #[7], 32⟩], none⟩
    let config : Config := { Config.ofConditions .right [⟨"k", "k", .equals⟩] with minBuckets := 1 }
    let probe : Script := .ofSteps "probe" [.batch one] none
    let build : Script := .ofSteps "build" [.notYet, .batch one] none
    let calls : List Call := [.next, .next, .kill true, .next]
    ∃ op, create? config probe build = .ok op ∧ ¬EndsAtOnce build ∧
      (op.watch.run calls).probe.history = [.pulled .newSchema, .pulled .ended, .killed true] ∧
      (op.watch.run calls).build.history =
        [.pulled .notYet, .pulled .newSchema, .pulled .ended, .killed true] ∧
      Settled (op.watch.run calls).probe.history ∧ Settled (op.watch.run calls).build.history := by
  intro one config probe build calls
  have hvalid : config.fault? = none := Option.isNone_iff_eq_none.mp (by decide +kernel)
  have hnew : create? config probe build = .ok (ofSources config probe build) :=
    create?_eq_ok_iff.mpr ⟨hvalid, rfl⟩
  have hmore : ¬EndsAtOnce build := by
    rw [Script.endsAtOnce_iff _ rfl]
    intro hall
    cases hall (.batch one) (.tail _ (.head _))
  obtain ⟨-, hprobe, hbuild, -⟩ := pulls_settled_of_run hnew calls
  exact ⟨_, hnew, hmore, by decide +kernel, by decide +kernel, hprobe,
    hbuild.mpr fun hends => hmore hends.1⟩

/-- A left join over a build source without batches: the first pull of the operator pulls that source
twice, and it has ended each time. -/
theorem pulls_behind_end :
    let one : Batch := ⟨1, 1, [.fixed (.scalar "k" (.int .bits64) true) (.ofList [true])
      ⟨.ints .bits64 #[7], 32⟩], none⟩
    let config : Config := { Config.ofConditions .left [⟨"k", "k", .equals⟩] with minBuckets := 1 }
    let probe : Script := .ofSteps "probe" [.batch one] none
    let build : Script := .ofSteps "build" [] none
    ∃ op, create? config probe build = .ok op ∧ op.next.1 = .newSchema ∧ (op.run [.next]).build.pulls = 2 ∧
      (op.watch.run [.next]).build.history = [.pulled .ended, .pulled .ended] ∧
      ¬Settled (op.watch.run [.next]).build.history := by
  intro one config probe build
  have hvalid : config.fault? = none := Option.isNone_iff_eq_none.mp (by decide +kernel)
  have hnew : create? config probe build = .ok (ofSources config probe build) :=
    create?_eq_ok_iff.mpr ⟨hvalid, rfl⟩
  exact ⟨_, hnew, by decide +kernel, by decide +kernel, by decide +kernel, by decide +kernel⟩

end Operator
end HashJoin
